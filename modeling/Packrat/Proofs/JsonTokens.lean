import Packrat.Grammars.Json
import Packrat.Proofs.JsonSyntax
import Packrat.Proofs.PatternReading

/-!
# Numbers and strings of JSON

The patterns of numbers and strings are read character by character. Each state of a reader has a
language of what may still follow, and the languages satisfy the equations of the reader: so the
reader of numbers reads numbers (`Number.speaks`) and the reader of strings strings
(`Text.speaks`). A number may go on where a digit, a point or an exponent mark follows it
(`Number.stuck_of_endsBefore`); a string never does (`Text.stuck`).
-/

namespace Packrat

/-! ## Classes -/

namespace CharClass

/-- A class of ranges in order has a character just if one of them does. -/
theorem accepts_iff {ranges : Unicode.RangeTable}
    (sorted : ranges.Pairwise fun left right => left.1 ≤ right.1) {c : Char} :
    (CharClass.mk ranges).accepts c = true ↔
      ∃ range ∈ ranges, range.1 ≤ c.toNat ∧ c.toNat ≤ range.2 := by
  rw [accepts]
  induction ranges with
  | nil => simp [Unicode.RangeTable.covers]
  | cons range later ih =>
    obtain ⟨least, rest⟩ := List.pairwise_cons.mp sorted
    rw [List.exists_mem_cons_iff, ← ih rest, Unicode.RangeTable.covers]
    split
    · -- the later ranges start no lower than this one
      have none : ¬Unicode.RangeTable.covers later c.toNat = true := by
        rw [ih rest]
        rintro ⟨other, member, inside, _⟩
        have := least other member
        omega
      simp only [Bool.false_eq_true, false_iff, not_or]
      exact ⟨by omega, none⟩
    · split
      · exact ⟨fun _ => .inl (by omega), fun _ => rfl⟩
      · exact ⟨.inr, fun either => either.resolve_left (by omega)⟩

/-- A class of characters between two has those. -/
theorem accepts_between {first last c : Char} :
    (between first last).accepts c = true ↔ first ≤ c ∧ c ≤ last := by
  rw [between, accepts_iff (List.pairwise_singleton _ _)]
  simp only [List.mem_singleton, exists_eq_left]
  exact Iff.rfl

/-- A class of one character has that. -/
theorem accepts_single {only c : Char} : (single only).accepts c = true ↔ c = only := by
  rw [single, accepts_between]
  exact ⟨fun both => Char.le_antisymm both.2 both.1,
    fun same => same ▸ ⟨Char.le_refl _, Char.le_refl _⟩⟩

/-- The class of some characters. -/
def ofChars (members : List Char) : CharClass :=
  ⟨members.map fun c => (c.toNat, c.toNat)⟩

/-- A class of characters in order has those. -/
theorem accepts_ofChars {members : List Char} {c : Char}
    (sorted : members.Pairwise fun left right => left.toNat ≤ right.toNat) :
    (ofChars members).accepts c = true ↔ c ∈ members := by
  rw [ofChars, accepts_iff (List.pairwise_map.mpr sorted)]
  constructor
  · rintro ⟨_, member, least, most⟩
    obtain ⟨d, listed, rfl⟩ := List.mem_map.mp member
    rwa [Char.toNat_inj.mp (Nat.le_antisymm most least)]
  · exact fun member => ⟨_, List.mem_map_of_mem member, Nat.le_refl _, Nat.le_refl _⟩

/-- Whether the ranges of two classes are in order, and no range of one meets one of the other. -/
def areApart (left right : CharClass) : Bool :=
  (left.ranges.Pairwise fun range other => range.1 ≤ other.1) &&
    (right.ranges.Pairwise fun range other => range.1 ≤ other.1) &&
    left.ranges.all fun range => right.ranges.all fun other =>
      range.2 < other.1 || other.2 < range.1

/-- Classes whose ranges do not meet have no character in common. -/
theorem apart_of_areApart {left right : CharClass} (checked : left.areApart right = true) :
    left.Apart right := by
  intro c accepted
  simp only [areApart, Bool.and_eq_true, decide_eq_true_eq] at checked
  obtain ⟨⟨leftSorted, rightSorted⟩, checked⟩ := checked
  refine Bool.eq_false_iff.mpr fun known => ?_
  obtain ⟨range, member, inside⟩ := (accepts_iff leftSorted).mp accepted
  obtain ⟨other, otherMember, otherInside⟩ := (accepts_iff rightSorted).mp known
  have disjoint := List.all_eq_true.mp (List.all_eq_true.mp checked range member) other otherMember
  simp only [Bool.or_eq_true, decide_eq_true_eq] at disjoint
  omega

/-- Ways along classes whose ranges do not meet have no character in common. -/
theorem pairwise_apart {σ : Type} {options : List (CharClass × σ)}
    (checked : options.Pairwise fun left right => left.1.areApart right.1 = true) :
    options.Pairwise fun left right => left.1.Apart right.1 :=
  checked.imp apart_of_areApart

end CharClass

namespace Json

/-! ## One text after another -/

/-- A text of one language followed by a text of another. -/
def Followed (first second : List Char → Prop) (text : List Char) : Prop :=
  ∃ before after, first before ∧ second after ∧ text = before ++ after

/-- The empty text is two empty texts. -/
theorem followed_nil {first second : List Char → Prop} :
    Followed first second [] ↔ first [] ∧ second [] := by
  simp [Followed]

/-- A character belongs to the first text, unless that is empty. -/
theorem followed_cons {first second : List Char → Prop} {c : Char} {text : List Char} :
    Followed first second (c :: text) ↔
      Followed (fun before => first (c :: before)) second text ∨ first [] ∧ second (c :: text) := by
  constructor
  · rintro ⟨before, after, leads, follows, same⟩
    cases before with
    | nil =>
      obtain rfl : c :: text = after := same
      exact .inr ⟨leads, follows⟩
    | cons d before =>
      obtain ⟨rfl, rfl⟩ := List.cons.inj same
      exact .inl ⟨before, after, leads, follows, rfl⟩
  · rintro (⟨before, after, leads, follows, rfl⟩ | ⟨leads, follows⟩)
    · exact ⟨c :: before, after, leads, follows, rfl⟩
    · exact ⟨[], c :: text, leads, follows, rfl⟩

/-- A language that needs a condition is followed by another under that condition. -/
theorem followed_and {condition : Prop} {first second : List Char → Prop} {text : List Char} :
    Followed (fun before => condition ∧ first before) second text ↔
      condition ∧ Followed first second text := by
  simp only [Followed, and_assoc, exists_and_left]

/-- A choice of languages is followed by another if one of them is. -/
theorem followed_or {left right second : List Char → Prop} {text : List Char} :
    Followed (fun before => left before ∨ right before) second text ↔
      Followed left second text ∨ Followed right second text := by
  simp only [Followed, or_and_right, exists_or]

/-- The empty text is followed by what a language has. -/
theorem followed_empty {second : List Char → Prop} {text : List Char} :
    Followed (fun before => before = []) second text ↔ second text := by
  simp [Followed]

/-- Nothing is followed by anything if there is nothing. -/
theorem followed_false {second : List Char → Prop} {text : List Char} :
    ¬Followed (fun _ => False) second text := by
  simp [Followed]

/-- Of three languages one after the other, any two are taken together first. -/
theorem followed_assoc {first second third : List Char → Prop} {text : List Char} :
    Followed (Followed first second) third text ↔ Followed first (Followed second third) text := by
  constructor
  · rintro ⟨_, last, ⟨before, after, leads, follows, rfl⟩, ends, rfl⟩
    exact ⟨before, after ++ last, leads, ⟨after, last, follows, ends, rfl⟩,
      List.append_assoc before after last⟩
  · rintro ⟨before, _, leads, ⟨after, last, follows, ends, rfl⟩, rfl⟩
    exact ⟨before ++ after, last, ⟨before, after, leads, follows, rfl⟩, ends,
      (List.append_assoc before after last).symm⟩

/-- A text of a language, or none. -/
def Perhaps (language : List Char → Prop) (text : List Char) : Prop :=
  text = [] ∨ language text

/-- A language may be left out. -/
theorem perhaps_nil {language : List Char → Prop} : Perhaps language [] :=
  .inl rfl

/-- A language that is not left out is there. -/
theorem perhaps_cons {language : List Char → Prop} {c : Char} {text : List Char} :
    Perhaps language (c :: text) ↔ language (c :: text) :=
  or_iff_right (List.cons_ne_nil c text)

/-! ## Numbers -/

namespace Number

/-- The class of the sign of a number. -/
def minus : CharClass := .single '-'

/-- The class of zero. -/
def nought : CharClass := .single '0'

/-- The class of the digits that a number may start with, other than zero. -/
def leadingDigit : CharClass := .between '1' '9'

/-- The class of digits. -/
def digit : CharClass := .between '0' '9'

/-- The class of the decimal point. -/
def point : CharClass := .single '.'

/-- The class of the marks of an exponent. -/
def mark : CharClass := .ofChars ['E', 'e']

/-- The class of the signs of an exponent. -/
def sign : CharClass := .ofChars ['+', '-']

/-- The pattern of another that may be left out. -/
def optional (body : Pattern) : Pattern := .repeated 0 (some 1) true body

/-- What is left of a pattern that might have been left out, after it has been matched. -/
def spent (body : Pattern) : Pattern := .repeated 0 (some 0) true body

/-- The pattern of digits, at least one. -/
def numeral : Pattern := .repeated 1 none true (.one digit)

/-- The pattern of an integer without a sign. -/
def integer : Pattern :=
  .alternative (.one nought)
    (.sequence (.one leadingDigit) (.repeated 0 none true (.one digit)))

/-- The pattern of a fraction. -/
def fraction : Pattern := .sequence (.one point) numeral

/-- The pattern of an exponent. -/
def exponent : Pattern :=
  .sequence (.one mark) (.sequence (optional (.one sign)) numeral)

/-- The pattern of what may follow an integer. -/
def ending : Pattern := .sequence (optional fraction) (optional exponent)

/-- The pattern of a number. -/
def pattern : Pattern :=
  .sequence (.assertion .textStart)
    (.sequence (optional (.one minus)) (.sequence integer ending))

/-- The written pattern of a number is compiled to that pattern. -/
theorem compile_pattern : Regex.compile? (Terminal.anchored numberPattern) =
    some ⟨Terminal.anchored numberPattern, pattern⟩ := by
  decide +kernel

/-- How far a number has been read. -/
inductive State where
  /-- The sign has been read. -/
  | signed
  /-- Zero has been read. -/
  | nought
  /-- The first digit has been read. -/
  | leading
  /-- More digits have been read. -/
  | whole
  /-- The decimal point has been read. -/
  | point
  /-- Digits after the point have been read. -/
  | fraction
  /-- The mark of the exponent has been read. -/
  | marked
  /-- The sign of the exponent has been read. -/
  | inclined
  /-- Digits of the exponent have been read. -/
  | exponent

namespace State

/-- What is left to match of a number. -/
def thread : State → Thread
  | signed => [.part 3 (spent (.one minus)), .part 5 (.sequence integer ending)]
  | nought => [.part 12 ending]
  | leading => [.part 10 (.repeated 0 none true (.one digit)), .part 12 ending]
  | whole => [.again 10 true (.one digit), .part 12 ending]
  | point =>
    [.part 16 numeral, .part 13 (spent Number.fraction), .part 18 (optional Number.exponent)]
  | fraction =>
    [.again 16 true (.one digit), .part 13 (spent Number.fraction),
      .part 18 (optional Number.exponent)]
  | marked =>
    [.part 21 (.sequence (optional (.one sign)) numeral), .part 18 (spent Number.exponent)]
  | inclined => [.part 22 (spent (.one sign)), .part 24 numeral, .part 18 (spent Number.exponent)]
  | exponent => [.again 24 true (.one digit), .part 18 (spent Number.exponent)]

/-- What may follow what has been read of a number. -/
def ways : State → List (CharClass × State)
  | signed => [(Number.nought, nought), (leadingDigit, leading)]
  | nought => [(Number.point, point), (mark, marked)]
  | leading => [(digit, whole), (Number.point, point), (mark, marked)]
  | whole => [(digit, whole), (Number.point, point), (mark, marked)]
  | point => [(digit, fraction)]
  | fraction => [(digit, fraction), (mark, marked)]
  | marked => [(sign, inclined), (digit, exponent)]
  | inclined => [(digit, exponent)]
  | exponent => [(digit, exponent)]

/-- Whether what has been read is a number. -/
def isFinal : State → Bool
  | nought => true
  | leading => true
  | whole => true
  | fraction => true
  | exponent => true
  | _ => false

end State

/-- The reader of numbers. -/
def reader : Reader pattern where
  State := State
  thread := State.thread
  first := [(minus, .signed), (nought, .nought), (leadingDigit, .leading)]
  ways := State.ways
  isFinal := State.isFinal
  first_apart := CharClass.pairwise_apart (by decide)
  ways_apart state := CharClass.pairwise_apart (by cases state <;> decide)
  starts text := ⟨rfl, rfl⟩
  goesOn state previous text := by cases state <;> exact ⟨rfl, rfl⟩

/-! What may follow in each state. -/

/-- The class of digits has the digits. -/
theorem digit_accepts {c : Char} : digit.accepts c = true ↔ c.isDigit = true := by
  rw [digit, CharClass.accepts_between, Char.isDigit, Bool.and_eq_true, decide_eq_true_eq,
    decide_eq_true_eq]
  exact Iff.rfl

/-- The class of marks has the marks. -/
theorem mark_accepts {c : Char} : mark.accepts c = true ↔ c ∈ ['e', 'E'] := by
  rw [mark, CharClass.accepts_ofChars (by decide)]
  exact (List.Perm.swap 'e' 'E' []).mem_iff

/-- The class of signs has the signs. -/
theorem sign_accepts {c : Char} : sign.accepts c = true ↔ c = '-' ∨ c = '+' := by
  rw [sign, CharClass.accepts_ofChars (by decide), List.mem_pair]
  exact or_comm

/-- No characters are digits. -/
theorem areDigits_nil : AreDigits [] :=
  fun _ member => absurd member List.not_mem_nil

/-- Digits start with a digit. -/
theorem areDigits_cons {c : Char} {text : List Char} :
    AreDigits (c :: text) ↔ digit.accepts c = true ∧ AreDigits text := by
  rw [AreDigits, List.forall_mem_cons, digit_accepts]
  rfl

/-- A numeral is not empty. -/
theorem not_isNumeral_nil : ¬IsNumeral [] :=
  fun numeral => numeral.1 rfl

/-- A numeral starts with a digit. -/
theorem isNumeral_cons {c : Char} {text : List Char} :
    IsNumeral (c :: text) ↔ digit.accepts c = true ∧ AreDigits text := by
  rw [IsNumeral, areDigits_cons, and_iff_right (List.cons_ne_nil c text)]

/-- An integer is not empty. -/
theorem not_isInteger_nil : ¬IsInteger [] := by
  simp [IsInteger]

/-- An integer starts with zero, and ends there, or with another digit. -/
theorem isInteger_cons {c : Char} {text : List Char} :
    IsInteger (c :: text) ↔
      nought.accepts c = true ∧ text = [] ∨ leadingDigit.accepts c = true ∧ AreDigits text := by
  rw [nought, CharClass.accepts_single, leadingDigit, CharClass.accepts_between, IsInteger,
    List.cons.injEq]
  refine or_congr Iff.rfl ⟨?_, ?_⟩
  · rintro ⟨first, later, least, most, digits, same⟩
    obtain ⟨rfl, rfl⟩ := List.cons.inj same
    exact ⟨⟨least, most⟩, digits⟩
  · rintro ⟨⟨least, most⟩, digits⟩
    exact ⟨c, text, least, most, digits, rfl⟩

/-- A fraction starts with the point. -/
theorem isFraction_cons {c : Char} {text : List Char} :
    IsFraction (c :: text) ↔ point.accepts c = true ∧ IsNumeral text := by
  rw [point, CharClass.accepts_single, IsFraction]
  simp only [List.cons.injEq]
  exact ⟨fun ⟨_, numeral, same, rest⟩ => ⟨same, rest ▸ numeral⟩,
    fun ⟨same, numeral⟩ => ⟨text, numeral, same, rfl⟩⟩

/-- What may stand before the digits of an exponent. -/
def IsInclination (text : List Char) : Prop :=
  text ∈ [[], ['-'], ['+']]

/-- The sign of an exponent may be left out. -/
theorem isInclination_nil : IsInclination [] :=
  List.mem_cons_self

/-- The sign of an exponent is one character. -/
theorem isInclination_cons {c : Char} {text : List Char} :
    IsInclination (c :: text) ↔ sign.accepts c = true ∧ text = [] := by
  rw [sign_accepts, IsInclination]
  simp only [List.mem_cons, List.cons.injEq, List.not_mem_nil, or_false, reduceCtorEq, false_or,
    or_and_right]

/-- An exponent starts with the mark. -/
theorem isExponent_cons {c : Char} {text : List Char} :
    IsExponent (c :: text) ↔ mark.accepts c = true ∧ Followed IsInclination IsNumeral text := by
  rw [mark_accepts, IsExponent]
  simp only [List.cons.injEq]
  exact ⟨fun ⟨_, sign, digits, known, signed, numeral, same, rest⟩ =>
      ⟨same ▸ known, sign, digits, signed, numeral, rest⟩,
    fun ⟨known, sign, digits, signed, numeral, rest⟩ =>
      ⟨c, sign, digits, known, signed, numeral, rfl, rest⟩⟩

/-- What may follow an integer. -/
def IsEnding (text : List Char) : Prop :=
  Followed (Perhaps IsFraction) (Perhaps IsExponent) text

/-- Nothing need follow an integer. -/
theorem isEnding_nil : IsEnding [] :=
  followed_nil.mpr ⟨perhaps_nil, perhaps_nil⟩

/-- What follows an integer starts with a point or a mark. -/
theorem isEnding_cons {c : Char} {text : List Char} :
    IsEnding (c :: text) ↔
      point.accepts c = true ∧ Followed IsNumeral (Perhaps IsExponent) text ∨
        mark.accepts c = true ∧ Followed IsInclination IsNumeral text := by
  rw [IsEnding, followed_cons]
  simp only [perhaps_cons, isFraction_cons, isExponent_cons, followed_and, perhaps_nil, true_and]

namespace State

/-- What may follow what has been read of a number. -/
def language : State → List Char → Prop
  | signed => Followed IsInteger IsEnding
  | nought => IsEnding
  | leading => Followed AreDigits IsEnding
  | whole => Followed AreDigits IsEnding
  | point => Followed IsNumeral (Perhaps IsExponent)
  | fraction => Followed AreDigits (Perhaps IsExponent)
  | marked => Followed IsInclination IsNumeral
  | inclined => IsNumeral
  | exponent => AreDigits

/-- Nothing need follow just if what has been read is a number. -/
theorem language_nil (state : State) : state.language [] ↔ state.isFinal = true := by
  cases state <;>
    simp only [language, isFinal, followed_nil, isEnding_nil, areDigits_nil, perhaps_nil,
      not_isNumeral_nil, not_isInteger_nil, and_false, false_and, and_self, Bool.false_eq_true]

/-- What may follow starts with a character that leads on. -/
theorem language_cons (state : State) (c : Char) (text : List Char) :
    state.language (c :: text) ↔
      ∃ way ∈ state.ways, way.1.accepts c = true ∧ way.2.language text := by
  cases state <;>
    simp only [language, ways, followed_cons, followed_or, followed_and, followed_empty,
      isEnding_cons, isInteger_cons, isNumeral_cons, isInclination_cons, isInclination_nil,
      areDigits_cons, areDigits_nil, perhaps_cons, isExponent_cons, not_isNumeral_nil,
      not_isInteger_nil, List.exists_mem_cons_iff, List.not_mem_nil, false_and, exists_false,
      or_false, true_and]

end State

/-- A sign, or none, is followed by an integer and what may follow that. -/
theorem isNumber_iff {text : List Char} :
    IsNumber text ↔ Followed (· ∈ [[], ['-']]) (Followed IsInteger IsEnding) text := by
  constructor
  · rintro ⟨sign, integer, fraction, exponent, signed, whole, broken, raised, rfl⟩
    exact ⟨sign, _, signed, ⟨integer, _, whole, ⟨fraction, exponent, broken, raised, rfl⟩, rfl⟩,
      rfl⟩
  · rintro ⟨sign, _, signed, ⟨integer, _, whole, ⟨fraction, exponent, broken, raised, rfl⟩, rfl⟩,
      rfl⟩
    exact ⟨sign, integer, fraction, exponent, signed, whole, broken, raised, rfl⟩

/-- The sign of a number is one character. -/
theorem mem_signs_cons {c : Char} {text : List Char} :
    c :: text ∈ [[], ['-']] ↔ minus.accepts c = true ∧ text = [] := by
  rw [minus, CharClass.accepts_single]
  simp only [List.mem_cons, reduceCtorEq, List.cons.injEq, List.not_mem_nil, or_false, false_or]

/-- The reader of numbers reads numbers. -/
theorem speaks : reader.Speaks IsNumber State.language where
  nil := by simp [isNumber_iff, followed_nil, not_isInteger_nil]
  cons c text := by
    change _ ↔ ∃ way ∈ [(minus, State.signed), (nought, State.nought),
      (leadingDigit, State.leading)], way.1.accepts c = true ∧ way.2.language text
    rw [isNumber_iff]
    simp only [followed_cons, mem_signs_cons, isInteger_cons, followed_or, followed_and,
      followed_empty, not_isInteger_nil, List.mem_cons_self, State.language,
      List.exists_mem_cons_iff, List.not_mem_nil, false_and, exists_false, or_false, true_and]
  tail_nil := State.language_nil
  tail_cons := State.language_cons

/-- No digit, point or exponent mark stands at the start of a text. -/
def EndsBefore (text : List Char) : Prop :=
  ∀ c ∈ text.head?, ∀ cls ∈ [digit, point, mark], cls.accepts c = false

/-- A number that has been read goes on with a digit, a point or an exponent mark. -/
theorem stuck_of_endsBefore {text : List Char} (ends : EndsBefore text) (state : State)
    (final : state.isFinal = true) : reader.Stuck state text := by
  have classes : ∀ way ∈ state.ways, way.1 ∈ [digit, point, mark] := by
    cases state <;> simp [State.ways, State.isFinal] at final ⊢
  exact fun c first way member => ends c first way.1 (classes way member)

end Number

/-! ## Strings -/

namespace Text

/-- The class of the quotation mark. -/
def quote : CharClass := .single '"'

/-- The class of the characters that stand for themselves. -/
def plain : CharClass := ⟨[(0x20, 0x21), (0x23, 0x5B), (0x5D, 0x10FFFF)]⟩

/-- The class of the character that starts an escape. -/
def backslash : CharClass := .single '\\'

/-- The class of the characters of short escapes. -/
def short : CharClass := .ofChars ['"', '/', '\\', 'b', 'f', 'n', 'r', 't']

/-- The class of the character that starts an escape by number. -/
def letter : CharClass := .single 'u'

/-- The class of hexadecimal digits. -/
def hexDigit : CharClass :=
  ⟨[('0'.toNat, '9'.toNat), ('A'.toNat, 'F'.toNat), ('a'.toNat, 'f'.toNat)]⟩

/-- The pattern of what may follow a backslash. -/
def escape : Pattern :=
  .alternative (.one short) (.sequence (.one letter) (.repeated 4 (some 4) true (.one hexDigit)))

/-- The pattern of a character of a string. -/
def character : Pattern :=
  .alternative (.one plain) (.sequence (.one backslash) escape)

/-- The pattern of a string. -/
def pattern : Pattern :=
  .sequence (.assertion .textStart)
    (.sequence (.one quote) (.sequence (.repeated 0 none true character) (.one quote)))

/-- The written pattern of a string is compiled to that pattern. -/
theorem compile_pattern : Regex.compile? (Terminal.anchored stringPattern) =
    some ⟨Terminal.anchored stringPattern, pattern⟩ := by
  decide +kernel

/-- How far a string has been read. -/
inductive State where
  /-- The opening mark has been read. -/
  | opened
  /-- Some characters have been read. -/
  | body
  /-- A backslash has been read. -/
  | escaped
  /-- An escape by number has been read but for some digits. -/
  | numbered (left : Nat)
  /-- The closing mark has been read. -/
  | closed

namespace State

/-- What is left to match of a string. -/
def thread : State → Thread
  | opened => [.part 4 (.sequence (.repeated 0 none true character) (.one quote))]
  | body => [.again 5 true character, .part 16 (.one quote)]
  | escaped => [.part 10 escape, .again 5 true character, .part 16 (.one quote)]
  | numbered left =>
    [.part 14 (.repeated left (some left) true (.one hexDigit)), .again 5 true character,
      .part 16 (.one quote)]
  | closed => []

/-- What may follow what has been read of a string. -/
def ways : State → List (CharClass × State)
  | opened => [(plain, body), (backslash, escaped), (quote, closed)]
  | body => [(plain, body), (backslash, escaped), (quote, closed)]
  | escaped => [(short, body), (letter, numbered 4)]
  | numbered 0 => [(plain, body), (backslash, escaped), (quote, closed)]
  | numbered (left + 1) => [(hexDigit, numbered left)]
  | closed => []

/-- Whether what has been read is a string. -/
def isFinal : State → Bool
  | closed => true
  | _ => false

end State

/-- The reader of strings. -/
def reader : Reader pattern where
  State := State
  thread := State.thread
  first := [(quote, .opened)]
  ways := State.ways
  isFinal := State.isFinal
  first_apart := CharClass.pairwise_apart (by decide)
  ways_apart state := CharClass.pairwise_apart (by
    match state with
    | .opened | .body | .escaped | .numbered 0 | .closed => decide
    | .numbered (_ + 1) => exact List.pairwise_singleton _ _)
  starts text := ⟨rfl, rfl⟩
  goesOn state previous text := by
    match state with
    | .opened | .body | .escaped | .numbered 0 | .numbered 1 | .numbered (_ + 2) | .closed =>
      exact ⟨rfl, rfl⟩

/-! What may follow in each state. -/

/-- The class of characters that stand for themselves has these. -/
theorem plain_accepts {c : Char} : plain.accepts c = true ↔ IsUnescaped c := by
  rw [plain, CharClass.accepts_iff (by decide)]
  simp only [List.exists_mem_cons_iff, List.not_mem_nil, false_and, exists_false, or_false,
    IsUnescaped]

/-- The class of short escapes has their characters. -/
theorem short_accepts {c : Char} :
    short.accepts c = true ↔ c ∈ ['"', '\\', '/', 'b', 'f', 'n', 'r', 't'] := by
  rw [short, CharClass.accepts_ofChars (by decide)]
  exact (List.Perm.cons '"' (List.Perm.swap '\\' '/' _)).mem_iff

/-- The class of hexadecimal digits has these. -/
theorem hexDigit_accepts {c : Char} : hexDigit.accepts c = true ↔ IsHexDigit c := by
  rw [hexDigit, CharClass.accepts_iff (by decide), IsHexDigit, ← Number.digit_accepts, Number.digit,
    CharClass.accepts_between]
  simp only [List.exists_mem_cons_iff, List.not_mem_nil, false_and, exists_false, or_false]
  exact Iff.rfl

/-- A number of hexadecimal digits. -/
def AreHexDigits (count : Nat) (text : List Char) : Prop :=
  text.length = count ∧ ∀ c ∈ text, IsHexDigit c

/-- No digits are there just if none are left. -/
theorem areHexDigits_nil {count : Nat} : AreHexDigits count [] ↔ count = 0 := by
  simp [AreHexDigits, eq_comm]

/-- No digits are the empty text. -/
theorem areHexDigits_zero {text : List Char} : AreHexDigits 0 text ↔ text = [] := by
  rw [AreHexDigits, List.length_eq_zero_iff, and_iff_left_iff_imp]
  rintro rfl c member
  contradiction

/-- Some digits start with one. -/
theorem areHexDigits_cons {count : Nat} {c : Char} {text : List Char} :
    AreHexDigits (count + 1) (c :: text) ↔ hexDigit.accepts c = true ∧ AreHexDigits count text := by
  rw [hexDigit_accepts, AreHexDigits, AreHexDigits, List.length_cons, Nat.add_right_cancel_iff,
    List.forall_mem_cons]
  exact and_left_comm

/-- What may follow a backslash. -/
def IsEscape (text : List Char) : Prop :=
  IsCharacter ('\\' :: text)

/-- A character is more than nothing. -/
theorem not_isCharacter_nil : ¬IsCharacter [] := by
  rintro ⟨⟩

/-- A backslash does not stand for itself. -/
theorem not_isUnescaped_backslash : ¬IsUnescaped '\\' := by
  rw [← plain_accepts]
  decide

/-- Something follows a backslash. -/
theorem not_isEscape_nil : ¬IsEscape [] := by
  intro escape
  cases escape with
  | unescaped itself => exact not_isUnescaped_backslash itself

/-- What follows a backslash is the character of a short escape, or a letter and digits. -/
theorem isEscape_cons {c : Char} {text : List Char} :
    IsEscape (c :: text) ↔
      short.accepts c = true ∧ text = [] ∨ letter.accepts c = true ∧ AreHexDigits 4 text := by
  rw [short_accepts, letter, CharClass.accepts_single]
  constructor
  · intro escape
    cases escape with
    | escaped known => exact .inl ⟨known, rfl⟩
    | numbered one two three four => exact .inr ⟨rfl, rfl, by simp [*]⟩
  · rintro (⟨known, rfl⟩ | ⟨rfl, four, digits⟩)
    · exact .escaped known
    · match text, four with
      | [first, second, third, fourth], _ =>
        exact .numbered (digits first (by simp)) (digits second (by simp)) (digits third (by simp))
          (digits fourth (by simp))

/-- A character stands for itself, or is a backslash and what may follow it. -/
theorem isCharacter_cons {c : Char} {text : List Char} :
    IsCharacter (c :: text) ↔
      plain.accepts c = true ∧ text = [] ∨ backslash.accepts c = true ∧ IsEscape text := by
  rw [plain_accepts, backslash, CharClass.accepts_single]
  constructor
  · intro character
    cases character with
    | unescaped itself => exact .inl ⟨itself, rfl⟩
    | escaped known => exact .inr ⟨rfl, .escaped known⟩
    | numbered one two three four => exact .inr ⟨rfl, .numbered one two three four⟩
  · rintro (⟨itself, rfl⟩ | ⟨rfl, escape⟩)
    · exact .unescaped itself
    · exact escape

/-- Any number of characters of a string. -/
def AreCharacters (text : List Char) : Prop :=
  ∃ characters : List (List Char), (∀ character ∈ characters, IsCharacter character) ∧
    text = characters.flatten

/-- There need not be any characters. -/
theorem areCharacters_nil : AreCharacters [] :=
  ⟨[], fun _ member => absurd member List.not_mem_nil, rfl⟩

/-- The characters of a string start with the first. -/
theorem areCharacters_cons {c : Char} {text : List Char} :
    AreCharacters (c :: text) ↔
      Followed (fun before => IsCharacter (c :: before)) AreCharacters text := by
  constructor
  · rintro ⟨characters, each, same⟩
    cases characters with
    | nil => contradiction
    | cons character later =>
      obtain ⟨first, rest⟩ := List.forall_mem_cons.mp each
      cases character with
      | nil => exact absurd first not_isCharacter_nil
      | cons d before =>
        obtain ⟨rfl, rfl⟩ := List.cons.inj same
        exact ⟨before, later.flatten, first, ⟨later, rest, rfl⟩, rfl⟩
  · rintro ⟨before, _, first, ⟨later, rest, rfl⟩, rfl⟩
    exact ⟨(c :: before) :: later, List.forall_mem_cons.mpr ⟨first, rest⟩, rfl⟩

/-- What may follow a character of a string. -/
def IsBody (text : List Char) : Prop :=
  Followed AreCharacters (· = ['"']) text

/-- A string does not end without a quotation mark. -/
theorem not_isBody_nil : ¬IsBody [] := by
  simp [IsBody, followed_nil]

/-- What follows a character is another, or the closing mark. -/
theorem isBody_cons {c : Char} {text : List Char} :
    IsBody (c :: text) ↔
      plain.accepts c = true ∧ IsBody text ∨
        backslash.accepts c = true ∧ Followed IsEscape IsBody text ∨
          quote.accepts c = true ∧ text = [] := by
  have rest : Followed (fun before => AreCharacters (c :: before)) (· = ['"']) text ↔
      Followed (fun before => IsCharacter (c :: before)) IsBody text := by
    simp only [areCharacters_cons]
    exact followed_assoc
  rw [IsBody, followed_cons, rest]
  simp only [isCharacter_cons, followed_or, followed_and, followed_empty, areCharacters_nil,
    true_and, List.cons.injEq, quote, CharClass.accepts_single, or_assoc]

namespace State

/-- What may follow what has been read of a string. -/
def language : State → List Char → Prop
  | opened => IsBody
  | body => IsBody
  | escaped => Followed IsEscape IsBody
  | numbered left => Followed (AreHexDigits left) IsBody
  | closed => (· = [])

/-- Nothing need follow just if what has been read is a string. -/
theorem language_nil (state : State) : state.language [] ↔ state.isFinal = true := by
  cases state <;>
    simp only [language, isFinal, followed_nil, not_isBody_nil, and_false, Bool.false_eq_true]

/-- What may follow starts with a character that leads on. -/
theorem language_cons (state : State) (c : Char) (text : List Char) :
    state.language (c :: text) ↔
      ∃ way ∈ state.ways, way.1.accepts c = true ∧ way.2.language text := by
  match state with
  | opened | body | escaped | numbered 0 | numbered (_ + 1) | closed =>
    simp only [language, ways, followed_cons, followed_or, followed_and, followed_empty,
      isBody_cons, isEscape_cons, not_isEscape_nil, areHexDigits_nil, areHexDigits_zero,
      areHexDigits_cons, List.exists_mem_cons_iff, List.not_mem_nil, reduceCtorEq, false_and,
      exists_false, or_false, followed_false, false_or, true_and, Nat.add_eq_zero_iff,
      Nat.one_ne_zero, and_false]

end State

/-- The reader of strings reads strings. -/
theorem speaks : reader.Speaks IsString State.language where
  nil := by simp [IsString]
  cons c text := by
    change _ ↔ ∃ way ∈ [(quote, State.opened)], way.1.accepts c = true ∧ way.2.language text
    simp only [List.mem_singleton, exists_eq_left, quote, CharClass.accepts_single]
    constructor
    · rintro ⟨characters, each, same⟩
      obtain ⟨rfl, rfl⟩ := List.cons.inj same
      exact ⟨rfl, characters.flatten, ['"'], ⟨characters, each, rfl⟩, rfl, rfl⟩
    · rintro ⟨rfl, _, _, ⟨characters, each, rfl⟩, rfl, rfl⟩
      exact ⟨characters, each, rfl⟩
  tail_nil := State.language_nil
  tail_cons := State.language_cons

/-- A string that has been read goes on with nothing. -/
theorem stuck (text : List Char) (state : State) (final : state.isFinal = true) :
    reader.Stuck state text := by
  cases state with
  | closed => exact fun c first way member => absurd member List.not_mem_nil
  | _ => contradiction

end Text

end Json

end Packrat
