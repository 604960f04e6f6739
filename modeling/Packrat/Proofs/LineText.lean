import Packrat.Proofs.Coordinates

/-!
# Lines

A text falls into lines: what each of them says, and the line feed that ends it, with the carriage
return before it (`AreLines`). The last line is not ended. The text that a source gives for the line
of a position is what that line says, except that a last line loses a carriage return at its end
(`Source.lineText_eq`), which ends nothing. So the lines and what ends them make up the text again
just if it does not end with a carriage return (`Source.lineText_keeps_content`).
-/

namespace Packrat

/-! ## Lines of a text -/

/-- A line of a text. -/
structure Line where
  /-- What the line says. -/
  content : List Char
  /-- What ends the line. -/
  terminator : List Char

namespace Line

/-- The line as it stands in the text. -/
def chars (line : Line) : List Char :=
  line.content ++ line.terminator

/-- A line that a line feed ends, together with a carriage return if there is one before it. -/
structure IsEnded (line : Line) : Prop where
  /-- The line says nothing that ends it. -/
  flat : '\n' ∉ line.content
  /-- A carriage return before the line feed is part of the ending. -/
  ending : line.terminator = ['\r', '\n'] ∨
    (line.terminator = ['\n'] ∧ line.content.getLast? ≠ some '\r')

/-- A line that nothing ends but the text, with a carriage return at its end. -/
def EndsInReturn (line : Line) : Prop :=
  line.terminator = [] ∧ line.content.getLast? = some '\r'

end Line

/-- The lines of a text: all but the last one are ended. -/
inductive AreLines : List Line → List Char → Prop where
  /-- A text without line feeds is one line. -/
  | last {content : List Char} (flat : '\n' ∉ content) : AreLines [⟨content, []⟩] content
  /-- An ended line stands before other lines. -/
  | next {line : Line} {lines : List Line} {rest : List Char} (ended : line.IsEnded)
      (others : AreLines lines rest) : AreLines (line :: lines) (line.chars ++ rest)

variable {line : Line} {lines before later : List Line} {text : List Char}

namespace Line

/-- An ended line has a line feed as its last character, and no other. -/
theorem IsEnded.chars_eq (ended : line.IsEnded) :
    line.chars = line.content ++ line.terminator.dropLast ++ ['\n'] ∧
      '\n' ∉ line.content ++ line.terminator.dropLast := by
  have flat := ended.flat
  rcases ended.ending with crlf | ⟨feed, -⟩
  · rw [chars, crlf]
    simp [flat]
  · rw [chars, feed]
    simp [flat]

/-- A list ends with a carriage return just if it is not the same without it. -/
theorem withoutReturn_eq_self_iff (content : List Char) :
    Source.withoutReturn content = content ↔ content.getLast? ≠ some '\r' := by
  unfold Source.withoutReturn
  split
  · rename_i return_
    refine iff_of_false (fun same => ?_) (fun other => other return_)
    have lengths := congrArg List.length same
    have inhabited : content ≠ [] := by
      rintro rfl
      contradiction
    have positive := List.length_pos_of_ne_nil inhabited
    rw [List.length_dropLast] at lengths
    omega
  · rename_i other
    exact iff_of_true rfl other

/-- What is before the line feed of an ended line, without the carriage return of the ending, is
what the line says. -/
theorem IsEnded.withoutReturn_eq (ended : line.IsEnded) :
    Source.withoutReturn (line.content ++ line.terminator.dropLast) = line.content := by
  rcases ended.ending with crlf | ⟨feed, plain⟩
  · rw [crlf]
    simp [Source.withoutReturn]
  · rw [feed, List.dropLast_singleton, List.append_nil]
    exact (withoutReturn_eq_self_iff _).mpr plain

end Line

namespace AreLines

/-- Every text falls into lines. -/
theorem exists_lines (text : List Char) : ∃ lines, AreLines lines text := by
  induction text with
  | nil => exact ⟨_, .last List.not_mem_nil⟩
  | cons c later ih =>
    obtain ⟨lines, split⟩ := ih
    by_cases feed : c = '\n'
    · subst feed
      exact ⟨⟨[], ['\n']⟩ :: lines, .next ⟨List.not_mem_nil, .inr ⟨rfl, by simp⟩⟩ split⟩
    · have joined : ∀ content : List Char, '\n' ∉ content → '\n' ∉ c :: content := by
        intro content flat
        rw [List.mem_cons, not_or]
        exact ⟨Ne.symm feed, flat⟩
      cases split with
      | last flat => exact ⟨_, .last (joined _ flat)⟩
      | @next line others rest ended split =>
        obtain ⟨content, terminator⟩ := line
        rcases ended with ⟨flat, crlf | ⟨bare, plain⟩⟩
        · exact ⟨⟨c :: content, terminator⟩ :: others, .next ⟨joined _ flat, .inl crlf⟩ split⟩
        · by_cases ends : (c :: content).getLast? = some '\r'
          · -- The carriage return belongs to the ending, so nothing else is in the line.
            have nothing : content = [] := by
              cases content with
              | nil => rfl
              | cons first others =>
                rw [List.getLast?_cons_cons] at ends
                exact absurd ends plain
            subst nothing
            obtain rfl : c = '\r' := by simpa using ends
            obtain rfl : terminator = ['\n'] := bare
            exact ⟨⟨[], ['\r', '\n']⟩ :: others, .next ⟨List.not_mem_nil, .inl rfl⟩ split⟩
          · exact ⟨⟨c :: content, terminator⟩ :: others,
              .next ⟨joined _ flat, .inr ⟨bare, ends⟩⟩ split⟩

/-- The lines of a text, one after the other, are the text. -/
theorem flatMap_chars (split : AreLines lines text) : lines.flatMap Line.chars = text := by
  induction split with
  | last flat => simp [Line.chars]
  | next ended others ih => rw [List.flatMap_cons, ih]

/-- Lines that have others behind them are ended, and the last one is not. -/
theorem ended_or_last (split : AreLines lines text) (parts : lines = before ++ line :: later) :
    (∀ earlier ∈ before, earlier.IsEnded) ∧
      ((line.IsEnded ∧ later ≠ []) ∨
        ('\n' ∉ line.content ∧ line.terminator = [] ∧ later = [])) := by
  induction split generalizing before with
  | last flat =>
    cases before with
    | nil =>
      obtain ⟨rfl, rfl⟩ := List.cons.inj parts
      exact ⟨fun _ member => absurd member List.not_mem_nil, .inr ⟨flat, rfl, rfl⟩⟩
    | cons first before => simp at parts
  | next ended others ih =>
    cases before with
    | nil =>
      obtain ⟨rfl, rfl⟩ := List.cons.inj parts
      refine ⟨fun _ member => absurd member List.not_mem_nil, .inl ⟨ended, ?_⟩⟩
      rintro rfl
      cases others
    | cons first before =>
      obtain ⟨rfl, inner⟩ := List.cons.inj parts
      obtain ⟨earlier, last⟩ := ih inner
      exact ⟨List.forall_mem_cons.mpr ⟨ended, earlier⟩, last⟩

/-- Ended lines have as many line feeds as there are lines. -/
theorem count_flatMap_chars (ended : ∀ earlier ∈ before, earlier.IsEnded) :
    (before.flatMap Line.chars).count '\n' = before.length := by
  induction before with
  | nil => rfl
  | cons line before ih =>
    obtain ⟨first, others⟩ := List.forall_mem_cons.mp ended
    obtain ⟨chars, flat⟩ := first.chars_eq
    rw [List.flatMap_cons, List.count_append, ih others, chars, List.count_append,
      List.count_eq_zero_of_not_mem flat, List.length_cons, List.count_singleton_self]
    omega

/-- Behind ended lines a line starts. -/
theorem sinceLineFeed_flatMap_chars (ended : ∀ earlier ∈ before, earlier.IsEnded) :
    Source.sinceLineFeed (before.flatMap Line.chars) = [] := by
  rcases List.eq_nil_or_concat' before with rfl | ⟨earlier, last, rfl⟩
  · rfl
  · have chars := (ended last (by simp)).chars_eq.1
    rw [List.flatMap_append, List.flatMap_singleton, chars, ← List.append_assoc,
      Source.sinceLineFeed_lineFeed]

/-- A position of a text lies in one of its lines, and there is no line feed between the start of
that line and the position. -/
theorem exists_line (split : AreLines lines text) {position : Nat}
    (inside : position ≤ text.length) :
    ∃ before line later part, lines = before ++ line :: later ∧
      text.take position = before.flatMap Line.chars ++ part ∧ '\n' ∉ part := by
  induction split generalizing position with
  | last flat => exact ⟨[], _, [], _, rfl, rfl, fun member => flat (List.mem_of_mem_take member)⟩
  | @next line lines rest ended others ih =>
    obtain ⟨chars, flat⟩ := ended.chars_eq
    by_cases within : position < line.chars.length
    · refine ⟨[], line, lines, _, rfl, rfl, fun member => flat ?_⟩
      rw [chars, List.length_append, List.length_singleton] at within
      rw [chars, List.append_assoc, List.take_append_of_le_length (by omega)] at member
      exact List.mem_of_mem_take member
    · rw [List.length_append] at inside
      obtain ⟨before, found, later, part, rfl, taken, none⟩ :=
        ih (show position - line.chars.length ≤ rest.length by omega)
      refine ⟨line :: before, found, later, part, rfl, ?_, none⟩
      rw [List.take_append, List.take_of_length_le (by omega), taken, List.flatMap_cons,
        List.append_assoc]

/-- What a source gives for the lines of a text, each with what ends it, is the text just if it
does not end with a carriage return. -/
theorem flatMap_withoutReturn (split : AreLines lines text) :
    (lines.flatMap fun line =>
      Source.withoutReturn (line.content ++ line.terminator.dropLast) ++ line.terminator) = text ↔
        text.getLast? ≠ some '\r' := by
  induction split with
  | last flat => simpa using Line.withoutReturn_eq_self_iff _
  | @next line lines rest ended others ih =>
    have feed : line.chars.getLast? = some '\n' := by
      rw [ended.chars_eq.1, List.getLast?_concat]
    rw [List.flatMap_cons, ended.withoutReturn_eq, List.getLast?_append, feed]
    change line.chars ++ _ = line.chars ++ rest ↔ _
    rw [List.append_right_inj, ih]
    cases rest.getLast? with
    | none => simp
    | some c => simp

end AreLines

/-! ## The text of a line -/

namespace Source

variable {source : Source}

/-- The table of line starts has an entry for every line feed and one for the first line. -/
theorem size_lineStarts (source : Source) :
    source.lineStarts.size = source.chars.count '\n' + 1 := by
  rw [lineStarts, List.size_toArray, List.length_cons, length_startsFrom]

/-- A line starts where those before it end. -/
theorem getElem?_lineStarts_of_split (split : AreLines (before ++ line :: later) source.chars) :
    source.lineStarts[before.length]? = some (before.flatMap Line.chars).length := by
  have ended := (split.ended_or_last rfl).1
  have entry := source.getElem?_lineStarts (before.flatMap Line.chars).length
  have taken : source.chars.take (before.flatMap Line.chars).length =
      before.flatMap Line.chars := by
    rw [← split.flatMap_chars, List.flatMap_append, List.take_left]
  rw [taken, AreLines.count_flatMap_chars ended,
    AreLines.sinceLineFeed_flatMap_chars ended] at entry
  exact entry

/-- There are as many line starts as lines. -/
theorem size_lineStarts_of_split (split : AreLines lines source.chars) :
    source.lineStarts.size = lines.length := by
  have inhabited : lines ≠ [] := by
    rintro rfl
    cases split
  obtain ⟨before, line, rfl⟩ := (List.eq_nil_or_concat' lines).resolve_left inhabited
  obtain ⟨ended, last⟩ := split.ended_or_last rfl
  obtain ⟨flat, bare, -⟩ := last.resolve_left fun more => more.2 rfl
  have none : '\n' ∉ line.chars := by
    rw [Line.chars, bare, List.append_nil]
    exact flat
  rw [size_lineStarts, ← split.flatMap_chars, List.flatMap_append, List.flatMap_singleton,
    List.count_append, AreLines.count_flatMap_chars ended, List.count_eq_zero_of_not_mem none,
    List.length_append, List.length_singleton]

/-- The text of a line stops before the line feed that ends it, or at the end. -/
theorem lineStop_of_split (split : AreLines (before ++ line :: later) source.chars) :
    source.lineStop before.length = (before.flatMap Line.chars).length +
      (line.content ++ line.terminator.dropLast).length := by
  obtain ⟨-, ⟨ended, more⟩ | ⟨-, bare, rfl⟩⟩ := split.ended_or_last rfl
  · obtain ⟨next, others, rfl⟩ := List.exists_cons_of_ne_nil more
    have parted : AreLines ((before ++ [line]) ++ next :: others) source.chars := by
      simpa using split
    have entry := getElem?_lineStarts_of_split parted
    rw [List.length_append, List.length_singleton, List.flatMap_append, List.flatMap_singleton,
      List.length_append, ended.chars_eq.1, List.length_append, List.length_singleton] at entry
    simp only [lineStop, entry]
    omega
  · have none : source.lineStarts[before.length + 1]? = none := by
      rw [Array.getElem?_eq_none_iff, size_lineStarts_of_split split, List.length_append,
        List.length_singleton]
    have whole := congrArg List.length split.flatMap_chars
    rw [List.flatMap_append, List.flatMap_singleton, List.length_append, Line.chars, bare,
      List.append_nil] at whole
    simp only [lineStop, none]
    rw [bare, List.dropLast_nil, List.append_nil]
    exact whole.symm

/-- The text of the line of a position is what the line says, with a carriage return that stands
before its line feed or at the end taken away. -/
theorem lineText_eq (split : AreLines (before ++ line :: later) source.chars) {position : Nat}
    {part : List Char} (taken : source.chars.take position = before.flatMap Line.chars ++ part)
    (none : '\n' ∉ part) :
    source.lineText position =
      String.ofList (withoutReturn (line.content ++ line.terminator.dropLast)) := by
  have ended := (split.ended_or_last rfl).1
  have index : (source.lineIndex (min position source.length)).val = before.length := by
    rw [lineIndex_eq_count (Nat.min_le_right _ _), take_min, taken, List.count_append,
      AreLines.count_flatMap_chars ended, List.count_eq_zero_of_not_mem none, Nat.add_zero]
  obtain ⟨listed, starts⟩ := Array.getElem?_eq_some_iff.mp (getElem?_lineStarts_of_split split)
  have chars : ∃ ending, line.chars = line.content ++ line.terminator.dropLast ++ ending := by
    obtain ⟨-, ⟨ended, -⟩ | ⟨-, bare, -⟩⟩ := split.ended_or_last rfl
    · exact ⟨_, ended.chars_eq.1⟩
    · refine ⟨[], ?_⟩
      rw [Line.chars, bare, List.dropLast_nil, List.append_nil, List.append_nil]
  obtain ⟨ending, chars⟩ := chars
  have inner : source.within ⟨(before.flatMap Line.chars).length, source.lineStop before.length⟩ =
      line.content ++ line.terminator.dropLast := by
    rw [within_eq, lineStop_of_split split, between, after, Nat.add_sub_cancel_left,
      ← split.flatMap_chars, List.flatMap_append, List.drop_left, List.flatMap_cons, chars,
      List.append_assoc, List.take_left]
  simp only [lineText, Fin.getElem_fin, index, starts]
  rw [inner]

/-- The texts that a source gives for its lines, one at each line start. -/
def lineTexts (source : Source) : List String :=
  source.lineStarts.toList.map source.lineText

/-- At each line start the text of a line is given. -/
theorem lineTexts_eq (split : AreLines lines source.chars) :
    source.lineTexts = lines.map fun line =>
      String.ofList (withoutReturn (line.content ++ line.terminator.dropLast)) := by
  have size := size_lineStarts_of_split split
  refine List.ext_getElem (by simpa [lineTexts] using size) fun index listed inside => ?_
  rw [List.length_map] at inside
  have parts : lines = lines.take index ++ lines[index] :: lines.drop (index + 1) := by
    rw [← List.drop_eq_getElem_cons inside, List.take_append_drop]
  have parted := split
  rw [parts] at parted
  have entry := getElem?_lineStarts_of_split parted
  rw [List.length_take_of_le (Nat.le_of_lt inside)] at entry
  obtain ⟨_, starts⟩ := Array.getElem?_eq_some_iff.mp entry
  have taken : source.chars.take ((lines.take index).flatMap Line.chars).length =
      (lines.take index).flatMap Line.chars ++ [] := by
    rw [← parted.flatMap_chars, List.flatMap_append, List.take_left, List.append_nil]
  simp only [lineTexts, List.getElem_map, Array.getElem_toList, starts]
  exact lineText_eq parted taken List.not_mem_nil

/-- What is given for some lines, each with what ends it, is joined character by character. -/
theorem join_texts (lines : List Line) :
    String.join (lines.map fun line =>
      String.ofList (withoutReturn (line.content ++ line.terminator.dropLast)) ++
        String.ofList line.terminator) =
      String.ofList (lines.flatMap fun line =>
        withoutReturn (line.content ++ line.terminator.dropLast) ++ line.terminator) := by
  induction lines with
  | nil => rfl
  | cons line lines ih =>
    rw [List.map_cons, String.join_cons, ih, List.flatMap_cons, String.ofList_append,
      String.ofList_append]

/-- Every text falls into lines, and the text that a source gives for the line of a position is what
the line with that number says: all of it from the start of the line to what ends it, unless it is
the last line and has a carriage return at its end. So what is given for the lines, each with what
ends it, makes up the text just if that does not end with a carriage return. -/
theorem lineText_keeps_content (source : Source) :
    (∃ lines, AreLines lines source.chars) ∧
    ∀ lines, AreLines lines source.chars →
      (∀ position, ∃ before line later, lines = before ++ line :: later ∧
        (source.lineColumn position).1 = before.length + 1 ∧
        (before.flatMap Line.chars).length + (source.lineColumn position).2 =
          min position source.length + 1 ∧
        (source.lineText position = String.ofList line.content ↔ ¬ line.EndsInReturn)) ∧
      (String.join (List.zipWith (fun text line => text ++ String.ofList line.terminator)
          source.lineTexts lines) = source.text ↔ source.chars.getLast? ≠ some '\r') := by
  refine ⟨AreLines.exists_lines _, fun lines split => ⟨fun position => ?_, ?_⟩⟩
  · obtain ⟨before, line, later, part, rfl, taken, none⟩ :=
      split.exists_line (Nat.min_le_right position source.length)
    rw [take_min] at taken
    obtain ⟨ended, last⟩ := split.ended_or_last rfl
    have length := congrArg List.length taken
    rw [List.length_take, List.length_append] at length
    refine ⟨before, line, later, rfl, ?_, ?_, ?_⟩
    · rw [lineColumn_eq, taken, List.count_append, AreLines.count_flatMap_chars ended,
        List.count_eq_zero_of_not_mem none, Nat.add_zero]
    · rw [lineColumn_eq, taken, sinceLineFeed_append none,
        AreLines.sinceLineFeed_flatMap_chars ended, List.nil_append]
      change _ = min position source.chars.length + 1
      rw [length]
      rfl
    · rw [lineText_eq split taken none, String.ofList_inj]
      rcases last with ⟨complete, -⟩ | ⟨-, bare, -⟩
      · refine iff_of_true complete.withoutReturn_eq fun exceptional => ?_
        rcases complete.ending with crlf | ⟨feed, -⟩
        · exact absurd (crlf.symm.trans exceptional.1) (by decide)
        · exact absurd (feed.symm.trans exceptional.1) (by decide)
      · rw [bare, List.dropLast_nil, List.append_nil, Line.withoutReturn_eq_self_iff,
          Line.EndsInReturn, and_iff_right bare]
  · rw [lineTexts_eq split, List.zipWith_map_left, List.zipWith_self, join_texts, text,
      String.ofList_inj, split.flatMap_withoutReturn]

/-- A blank line between two that end differently, and a carriage return that ends nothing. -/
theorem lineText_keeps_content_mixed :
    let source : Source := ⟨['a', '\r', '\r', '\n', '\n', 'b', '\r', 'c']⟩
    let lines : List Line := [⟨['a', '\r'], ['\r', '\n']⟩, ⟨[], ['\n']⟩, ⟨['b', '\r', 'c'], []⟩]
    AreLines lines source.chars ∧
      (∃ before line later, lines = before ++ line :: later ∧
        (source.lineColumn 2).1 = before.length + 1 ∧
        (source.lineText 2 = String.ofList line.content ↔ ¬ line.EndsInReturn)) ∧
      String.join (List.zipWith (fun text line => text ++ String.ofList line.terminator)
          source.lineTexts lines) = source.text := by
  intro source lines
  have split : AreLines lines source.chars :=
    .next ⟨by decide, .inl rfl⟩ (.next ⟨by decide, .inr ⟨rfl, by decide⟩⟩ (.last (by decide)))
  obtain ⟨given, joined⟩ := (lineText_keeps_content source).2 lines split
  obtain ⟨before, line, later, parts, number, -, text⟩ := given 2
  exact ⟨split, ⟨before, line, later, parts, number, text⟩, joined.mpr (by decide)⟩

/-- A carriage return at the end of the text, which no line feed follows, is missing in the text
that is given for its line. -/
theorem lineText_drops_return :
    Source.lineText ⟨['a', '\r']⟩ 0 = "a" ∧ AreLines [⟨['a', '\r'], []⟩] ['a', '\r'] ∧
      String.join (Source.lineTexts ⟨['a', '\r']⟩) ≠ Source.text ⟨['a', '\r']⟩ := by
  refine ⟨by decide +kernel, .last (by decide), by decide +kernel⟩

end Source

end Packrat
