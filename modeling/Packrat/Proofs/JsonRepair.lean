import Packrat.Proofs.JsonReading

/-!
# Repairing JSON

A closing bracket that is missing is recovered from, and a diagnostic says where it was expected.
Putting the brackets in where the diagnostics say mends the text (`Json.Mended`). Whatever a part of
the grammar matches is, once it is mended, what the part stands for (`Json.Repairs`): by induction
on how much is ahead, since what is inside an element comes after its first character
(`Json.repairs_element`). So a text is built without diagnostics just if it is JSON
(`Json.build_iff_isText`), and putting in the brackets that the diagnostics of a build name gives a
text that is built without (`Json.build_repaired`).
-/

namespace Packrat.Json

open Effect

/-! ## Mending -/

/-- A text from a position on becomes another where diagnostics ask for closing brackets. -/
inductive Mended : Nat → List Char → List Diagnostic → List Char → Prop
  /-- There is nothing more. -/
  | nil {position : Nat} : Mended position [] [] []
  /-- The next character is kept. -/
  | keep {position : Nat} {c : Char} {text mended : List Char} {diagnostics : List Diagnostic}
      (later : Mended (position + 1) text diagnostics mended) :
      Mended position (c :: text) diagnostics (c :: mended)
  /-- The next diagnostic asks for a closing bracket here. -/
  | insert {position : Nat} {closer : Char} {text mended : List Char}
      {diagnostics : List Diagnostic} (known : closer ∈ [']', '\x7d'])
      (later : Mended position text diagnostics mended) :
      Mended position text (⟨.point position, "expected " ++ closer.toString⟩ :: diagnostics)
        (closer :: mended)

namespace Mended

variable {position : Nat} {text other mended rest : List Char}
  {diagnostics others : List Diagnostic}

/-- A text without diagnostics is kept. -/
theorem refl (position : Nat) (text : List Char) : Mended position text [] text := by
  induction text generalizing position with
  | nil => exact .nil
  | cons c later ih => exact .keep (ih (position + 1))

/-- Texts are mended one after the other. -/
theorem append (first : Mended position text diagnostics mended)
    (second : Mended (position + text.length) other others rest) :
    Mended position (text ++ other) (diagnostics ++ others) (mended ++ rest) := by
  induction first with
  | nil => exact second
  | keep later ih =>
    refine .keep (ih ?_)
    rwa [Nat.add_assoc, Nat.add_comm 1]
  | insert known later ih => exact .insert known (ih second)

/-- A text without diagnostics is not changed. -/
theorem eq_of_nil (same : Mended position text [] mended) : mended = text := by
  generalize none : ([] : List Diagnostic) = diagnostics at same
  induction same with
  | nil => rfl
  | keep later ih => rw [ih none]
  | insert known later ih => contradiction

/-- Diagnostics point into the text and name closing brackets. -/
theorem of_mem (mends : Mended position text diagnostics mended) {diagnostic : Diagnostic}
    (member : diagnostic ∈ diagnostics) :
    ∃ place closer, diagnostic = ⟨.point place, "expected " ++ closer.toString⟩ ∧
      closer ∈ [']', '\x7d'] ∧ position ≤ place ∧ place ≤ position + text.length := by
  induction mends with
  | nil => contradiction
  | keep later ih =>
    obtain ⟨place, closer, same, known, least, most⟩ := ih member
    refine ⟨place, closer, same, known, Nat.le_of_succ_le least, ?_⟩
    rw [List.length_cons]
    omega
  | insert known later ih =>
    rcases List.mem_cons.mp member with rfl | member
    · exact ⟨_, _, rfl, known, Nat.le_refl _, Nat.le_add_right _ _⟩
    · exact ih member

end Mended

/-- The closing bracket that a diagnostic names, if it names one. -/
def closer? (diagnostic : Diagnostic) : Option Char :=
  [']', '\x7d'].find? fun closer => diagnostic.message = "expected " ++ closer.toString

/-- The closing brackets that diagnostics name at a position, in order. -/
def closersAt (diagnostics : List Diagnostic) (position : Nat) : List Char :=
  (diagnostics.filter (·.span.start = position)).filterMap closer?

/-- A text from a position on, with the closing brackets put in that diagnostics name, where they
point. -/
def repaired (diagnostics : List Diagnostic) : (position : Nat) → List Char → List Char
  | position, [] => closersAt diagnostics position
  | position, c :: later =>
    closersAt diagnostics position ++ c :: repaired diagnostics (position + 1) later

/-- A diagnostic before a position changes nothing from there on. -/
theorem repaired_cons_of_lt {diagnostic : Diagnostic} {diagnostics : List Diagnostic}
    {position : Nat} (earlier : diagnostic.span.start < position) (text : List Char) :
    repaired (diagnostic :: diagnostics) position text = repaired diagnostics position text := by
  have here : ∀ position, diagnostic.span.start < position →
      closersAt (diagnostic :: diagnostics) position = closersAt diagnostics position := by
    intro position earlier
    rw [closersAt, List.filter_cons_of_neg (by simp; omega)]
    rfl
  induction text generalizing position with
  | nil => exact here position earlier
  | cons c later ih => rw [repaired, repaired, here position earlier, ih (by omega)]

/-- A diagnostic that asks for a closing bracket names it. -/
theorem closer?_expected {closer : Char} (known : closer ∈ [']', '\x7d']) (span : Span) :
    closer? ⟨span, "expected " ++ closer.toString⟩ = some closer := by
  rcases List.mem_pair.mp known with rfl | rfl <;> rfl

/-- A diagnostic at a position puts its closing bracket there. -/
theorem repaired_cons {closer : Char} (known : closer ∈ [']', '\x7d'])
    (diagnostics : List Diagnostic) (position : Nat) (text : List Char) :
    repaired (⟨.point position, "expected " ++ closer.toString⟩ :: diagnostics) position text =
      closer :: repaired diagnostics position text := by
  have here :
      closersAt (⟨.point position, "expected " ++ closer.toString⟩ :: diagnostics) position =
        closer :: closersAt diagnostics position := by
    rw [closersAt, List.filter_cons_of_pos (by simp [Span.point]),
      List.filterMap_cons_some (closer?_expected known _)]
    rfl
  cases text with
  | nil => exact here
  | cons c later =>
    rw [repaired, repaired, here, repaired_cons_of_lt (Nat.lt_succ_self position)]
    rfl

/-- Putting in the closing brackets mends a text. -/
theorem Mended.repaired_eq {position : Nat} {text mended : List Char}
    {diagnostics : List Diagnostic} (mends : Mended position text diagnostics mended) :
    repaired diagnostics position text = mended := by
  induction mends with
  | nil => rfl
  | keep later ih =>
    rw [repaired, ih, closersAt, List.filter_eq_nil_iff.mpr]
    · rfl
    · intro diagnostic member
      obtain ⟨place, _, rfl, _, least, _⟩ := later.of_mem member
      exact decide_eq_false (Nat.ne_of_gt least) ▸ Bool.false_ne_true
  | insert known later ih => rw [repaired_cons known, ih]

/-! ## Repairing parts -/

/-- With fewer characters ahead than a bound, whatever the part matches is of a language once it is
mended. -/
def Repairs (bound : Nat) (part : Scanner → Effect) (language : List Char → Prop) : Prop :=
  ∀ ⦃here next diagnostics⦄, here.remaining.length < bound →
    part here = .matched next diagnostics →
      ∃ text mended, here.Takes text next ∧ Mended here.position text diagnostics mended ∧
        language mended

/-- Texts of a language one after the other. -/
def Several (language : List Char → Prop) (text : List Char) : Prop :=
  ∃ texts : List (List Char), (∀ one ∈ texts, language one) ∧ text = texts.flatten

namespace Repairs

variable {bound : Nat} {part : Scanner → Effect} {parts : List (Scanner → Effect)}
  {language later : List Char → Prop}

/-- What is of a language is of a greater one. -/
theorem mono {more : List Char → Prop} (repairs : Repairs bound part language)
    (included : ∀ text, language text → more text) : Repairs bound part more := by
  intro here next diagnostics few matched
  obtain ⟨text, mended, taken, mends, spoken⟩ := repairs few matched
  exact ⟨text, mended, taken, mends, included mended spoken⟩

/-- A terminal repairs nothing and takes what it takes. -/
theorem scan {terminal : Terminal}
    (takes : ∀ {here next}, terminal.scan here = some next →
      ∃ text, language text ∧ here.Takes text next) :
    Repairs bound (.scan terminal) language := by
  intro here next diagnostics _ matched
  obtain ⟨found, rfl⟩ := scan_eq_matched.mp matched
  obtain ⟨text, spoken, taken⟩ := takes found
  exact ⟨text, text, taken, .refl _ _, spoken⟩

/-- A sequence repairs one part after the other; the parts after the first need only repair what it
leaves. -/
theorem cons_within {inner : Nat} (first : Repairs bound part language)
    (rest : Repairs inner (sequence parts) later)
    (leaves : ∀ {here next diagnostics}, here.remaining.length < bound →
      part here = .matched next diagnostics → next.remaining.length < inner) :
    Repairs bound (sequence (part :: parts)) (Followed language later) := by
  intro here next diagnostics few matched
  obtain ⟨middle, earlier, others, matchedFirst, matchedRest, rfl⟩ := andThen_eq_matched.mp matched
  obtain ⟨text, mended, taken, mends, spoken⟩ := first few matchedFirst
  obtain ⟨ahead, mendedAhead, takenAhead, mendsAhead, spokenAhead⟩ :=
    rest (leaves few matchedFirst) matchedRest
  exact ⟨text ++ ahead, mended ++ mendedAhead, taken.trans takenAhead,
    mends.append (taken.position ▸ mendsAhead), mended, mendedAhead, spoken, spokenAhead, rfl⟩

/-- A sequence repairs one part after the other. -/
theorem cons (first : Repairs bound part language) (rest : Repairs bound (sequence parts) later) :
    Repairs bound (sequence (part :: parts)) (Followed language later) := by
  refine first.cons_within rest fun few matched => ?_
  obtain ⟨text, _, taken, _⟩ := first few matched
  rw [taken.ahead, List.length_append] at few
  omega

/-- A sequence that starts with a terminal that takes something needs to repair less after it. -/
theorem cons_scan {terminal : Terminal} (empty : ¬language [])
    (takes : ∀ {here next}, terminal.scan here = some next →
      ∃ text, language text ∧ here.Takes text next) (rest : Repairs bound (sequence parts) later) :
    Repairs (bound + 1) (sequence (.scan terminal :: parts)) (Followed language later) := by
  refine (scan takes).cons_within rest fun {here next diagnostics} few matched => ?_
  obtain ⟨text, spoken, taken⟩ := takes (scan_eq_matched.mp matched).1
  have some : 0 < text.length := List.length_pos_iff.mpr fun none => empty (none ▸ spoken)
  rw [taken.ahead, List.length_append] at few
  omega

/-- A sequence of one part repairs what that does. -/
theorem last (only : Repairs bound part language) : Repairs bound (sequence [part]) language := by
  intro here next diagnostics few matched
  obtain ⟨middle, earlier, others, matchedFirst, matchedRest, rfl⟩ := andThen_eq_matched.mp matched
  obtain ⟨rfl, rfl⟩ := Effect.matched.inj matchedRest
  rw [List.append_nil]
  exact only few matchedFirst

/-- A part that may be left out repairs what the part does, or nothing. -/
theorem perhaps (repairs : Repairs bound part language) :
    Repairs bound (.perhaps part) (Perhaps language) := by
  intro here next diagnostics few matched
  rcases orElse_eq_matched.mp matched with matched | ⟨_, same⟩
  · obtain ⟨text, mended, taken, mends, spoken⟩ := repairs few matched
    exact ⟨text, mended, taken, mends, .inr spoken⟩
  · obtain ⟨rfl, rfl⟩ := Effect.matched.inj same
    exact ⟨[], [], .refl _, .nil, perhaps_nil⟩

/-- A choice repairs what all its parts do. -/
theorem choice (repairs : ∀ part ∈ parts, Repairs bound part language) :
    Repairs bound (.choice parts) language := by
  intro here next diagnostics few matched
  induction parts with
  | nil => contradiction
  | cons part parts ih =>
    obtain ⟨first, rest⟩ := List.forall_mem_cons.mp repairs
    rcases orElse_eq_matched.mp matched with matched | ⟨_, matched⟩
    · exact first few matched
    · exact ih rest matched

/-- How repetition ends repairs nothing. -/
theorem settle (cardinality : Cardinality) (count : Nat) :
    Repairs bound (.settle cardinality count) (Several language) := by
  intro here next diagnostics _ matched
  unfold Effect.settle at matched
  split at matched
  · obtain ⟨rfl, rfl⟩ := Effect.matched.inj matched
    exact ⟨[], [], .refl _, .nil, [], fun _ member => absurd member List.not_mem_nil, rfl⟩
  · contradiction

/-- Rounds repair several texts, one in each round. -/
theorem rounds (repairs : Repairs bound part language) (cardinality : Cardinality)
    (budget count : Nat) :
    Repairs bound (.rounds part cardinality budget count) (Several language) := by
  induction budget generalizing count with
  | zero =>
    intro here next diagnostics few matched
    unfold Effect.rounds at matched
    split at matched
    · exact settle cardinality count few matched
    · contradiction
  | succ budget ih =>
    intro here next diagnostics few matched
    unfold Effect.rounds at matched
    split at matched
    · rename_i middle earlier matchedFirst
      obtain ⟨others, matchedRest, rfl⟩ := after_eq_matched.mp matched
      obtain ⟨text, mended, taken, mends, spoken⟩ := repairs few matchedFirst
      have fewer : middle.remaining.length < bound := by
        rw [taken.ahead, List.length_append] at few
        omega
      obtain ⟨ahead, mendedAhead, takenAhead, mendsAhead, texts, each, rfl⟩ :
          ∃ text mended, middle.Takes text next ∧ Mended middle.position text others mended ∧
            Several language mended := by
        split at matchedRest
        · exact settle cardinality (count + 1) fewer matchedRest
        · exact ih (count + 1) fewer matchedRest
      exact ⟨text ++ ahead, mended ++ texts.flatten, taken.trans takenAhead,
        mends.append (taken.position ▸ mendsAhead), mended :: texts,
        List.forall_mem_cons.mpr ⟨spoken, each⟩, rfl⟩
    · exact settle cardinality count few matched
    · contradiction

/-- A repetition repairs several texts. -/
theorem repeated (repairs : Repairs bound part language) (cardinality : Cardinality) :
    Repairs bound (.repeated part cardinality) (Several language) :=
  fun _ _ _ few matched => repairs.rounds cardinality _ 0 few matched

end Repairs

/-! ## Repairing JSON texts -/

/-- Blanks take blanks. -/
theorem repairs_blanks {bound : Nat} : Repairs bound Meaning.blanks AreBlank := by
  have one : Repairs bound (scan (.set .whitespacesAndNewlines))
      fun text => ∃ c, Unicode.isBlank c = true ∧ text = [c] := by
    refine .scan fun found => ?_
    obtain ⟨c, blank, taken⟩ := Terminal.scan_set.mp found
    exact ⟨[c], ⟨c, blank, rfl⟩, taken⟩
  refine (one.repeated .oneOrMore).perhaps.mono ?_
  rintro _ (rfl | ⟨texts, each, rfl⟩) c member
  · contradiction
  · obtain ⟨text, listed, inside⟩ := List.mem_flatten.mp member
    obtain ⟨d, blank, rfl⟩ := each text listed
    obtain rfl := List.mem_singleton.mp inside
    exact blank

/-- A literal takes its text. -/
theorem takes_literal {word : String} {text : List Char} (same : word.toList = text)
    {here next : Scanner} (found : (Terminal.literal word).scan here = some next) :
    ∃ taken, taken = text ∧ here.Takes taken next :=
  ⟨_, same, Terminal.scan_literal.mp found⟩

/-- A closing bracket is there or put in. -/
theorem repairs_closing {bound : Nat} {word : String} {closer : Char}
    (shuts : word = closer.toString) (known : closer ∈ [']', '\x7d']) :
    Repairs bound (Meaning.closing word) (· = [closer]) := by
  subst shuts
  intro here next diagnostics few matched
  rcases orElse_eq_matched.mp matched with matched | ⟨_, same⟩
  · obtain ⟨found, rfl⟩ := scan_eq_matched.mp matched
    obtain ⟨_, rfl, taken⟩ := takes_literal rfl found
    exact ⟨_, _, taken, .refl _ _, by simp⟩
  · obtain ⟨rfl, rfl⟩ := Effect.matched.inj same
    exact ⟨[], [closer], .refl _, .insert known .nil, rfl⟩

/-- A comma with blanks around it and an element. -/
def IsAnother (element : Element) : List Char → Prop :=
  Followed AreBlank (Followed (· = [',']) (Followed AreBlank (IsElement element)))

/-- An element and others after commas are elements with commas in between. -/
theorem isSeparated_of_several {element : Element} {first : List Char} {others : List (List Char)}
    (leads : IsElement element first) (follow : ∀ other ∈ others, IsAnother element other) :
    IsSeparated element (first ++ others.flatten) := by
  induction others generalizing first with
  | nil =>
    rw [List.flatten_nil, List.append_nil]
    exact .one leads
  | cons other others ih =>
    obtain ⟨here, rest⟩ := List.forall_mem_cons.mp follow
    obtain ⟨before, _, blankBefore, ⟨_, _, rfl, ⟨after, next, blankAfter, valued, rfl⟩, rfl⟩,
      rfl⟩ := here
    have separates : IsStructural ',' (before ++ ',' :: after) :=
      ⟨before, after, blankBefore, blankAfter, rfl⟩
    have all := IsSeparated.more leads separates (ih valued rest)
    simpa only [List.flatten_cons, List.append_assoc, List.cons_append, List.nil_append] using all

section Elements

variable {bound : Nat} {part : Scanner → Effect} {element : Element}

/-- Elements with commas in between are repaired to such. -/
theorem repairs_separated (repairs : Repairs bound part (IsElement element)) :
    Repairs bound (Meaning.separated part) (IsListing element) := by
  have another : Repairs bound (Meaning.another part) (IsAnother element) :=
    repairs_blanks.cons ((Repairs.scan (takes_literal rfl)).cons
      (repairs_blanks.cons repairs.last))
  refine (repairs.cons (another.repeated .zeroOrMore).last).perhaps.mono ?_
  rintro _ (rfl | ⟨first, _, leads, ⟨others, follow, rfl⟩, rfl⟩)
  · exact .none
  · exact .some (isSeparated_of_several leads follow)

/-- A list between brackets is repaired to such, if its elements are, with one character less
ahead. -/
theorem repairs_delimited (opening word : String) (opener closer : Char)
    (opens : opening.toList = [opener]) (shuts : word = closer.toString)
    (known : closer ∈ [']', '\x7d']) (repairs : Repairs bound part (IsElement element)) :
    Repairs (bound + 1) (Meaning.delimited opening part word)
      fun text => ∃ left listed right, IsStructural opener left ∧ IsListing element listed ∧
        IsStructural closer right ∧ text = left ++ (listed ++ right) := by
  refine (Repairs.cons_scan (List.cons_ne_nil opener []).symm (takes_literal opens)
    (repairs_blanks.cons ((repairs_separated repairs).cons (repairs_blanks.cons
      (repairs_closing shuts known).last)))).mono ?_
  rintro _ ⟨_, _, rfl, ⟨before, _, blankBefore, ⟨listed, _, listing,
    ⟨after, _, blankAfter, rfl, rfl⟩, rfl⟩, rfl⟩, rfl⟩
  exact ⟨opener :: before, listed, after ++ [closer], ⟨[], before, areBlank_nil, blankBefore, rfl⟩,
    listing, ⟨after, [], blankAfter, areBlank_nil, rfl⟩, by simp⟩

/-- Whatever matches as a value is one once it is mended, if elements with fewer characters ahead
are. -/
theorem repairs_value (meaning : Meaning)
    (repairs : ∀ element, Repairs bound (meaning.element element) (IsElement element)) :
    Repairs (bound + 1) meaning.value (IsElement .value) := by
  have object : Repairs (bound + 1) (Meaning.delimited "\x7b" meaning.member "\x7d")
      (IsElement .value) := by
    refine (repairs_delimited "\x7b" "\x7d" '\x7b' '\x7d' rfl rfl (by decide)
      (repairs .member)).mono ?_
    rintro _ ⟨left, listed, right, opens, listing, closes, rfl⟩
    exact .object opens listing closes
  have array : Repairs (bound + 1) (Meaning.delimited "[" meaning.value "]")
      (IsElement .value) := by
    refine (repairs_delimited "[" "]" '[' ']' rfl rfl (by decide) (repairs .value)).mono ?_
    rintro _ ⟨left, listed, right, opens, listing, closes, rfl⟩
    exact .array opens listing closes
  have string : Repairs (bound + 1) Meaning.string (IsElement .value) :=
    (Repairs.scan Text.speaks.exists_of_scan).mono fun _ => .string
  have number : Repairs (bound + 1) Meaning.number (IsElement .value) :=
    (Repairs.scan Number.speaks.exists_of_scan).mono fun _ => .number
  have literal : ∀ {word : String}, IsElement .value word.toList →
      Repairs (bound + 1) (scan (.literal word)) (IsElement .value) := by
    intro word valued
    refine (Repairs.scan (takes_literal rfl)).mono ?_
    rintro _ rfl
    exact valued
  have bool : Repairs (bound + 1) Meaning.bool (IsElement .value) := by
    refine .choice ?_
    simp only [List.forall_mem_cons, List.not_mem_nil, false_imp_iff, implies_true, and_true]
    exact ⟨literal .true, literal .false⟩
  rw [meaning.value_eq]
  refine .choice ?_
  simp only [List.forall_mem_cons, List.not_mem_nil, false_imp_iff, implies_true, and_true]
  exact ⟨object, array, string, number, bool, literal .null⟩

/-- Whatever matches as a member is one once it is mended, if values with fewer characters ahead
are. -/
theorem repairs_member (meaning : Meaning)
    (repairs : Repairs bound meaning.value (IsElement .value)) :
    Repairs (bound + 1) meaning.member (IsElement .member) := by
  have colon : Repairs bound (scan (.literal ":")) (· = [':']) := .scan (takes_literal rfl)
  rw [meaning.member_eq]
  refine (Repairs.cons_scan Text.speaks.nil Text.speaks.exists_of_scan (repairs_blanks.cons
    (colon.cons (repairs_blanks.cons repairs.last)))).mono ?_
  rintro _ ⟨name, _, named, ⟨before, _, blankBefore, ⟨_, _, rfl, ⟨after, value, blankAfter, valued,
    rfl⟩, rfl⟩, rfl⟩, rfl⟩
  have separates : IsStructural ':' (before ++ ':' :: after) :=
    ⟨before, after, blankBefore, blankAfter, rfl⟩
  have all := IsElement.member named separates valued
  simpa only [List.append_assoc, List.cons_append, List.nil_append] using all

/-- Whatever matches as an element is one once it is mended. -/
theorem repairs_element (meaning : Meaning) (bound : Nat) (element : Element) :
    Repairs bound (meaning.element element) (IsElement element) := by
  induction bound generalizing element with
  | zero => exact fun _ _ _ few => absurd few (Nat.not_lt_zero _)
  | succ bound ih =>
    cases element with
    | value => exact repairs_value meaning ih
    | member => exact repairs_member meaning (ih .value)

/-- Whatever matches as a whole is a JSON text once it is mended. -/
theorem repairs_text (meaning : Meaning) (bound : Nat) :
    Repairs bound (.sequence [Meaning.blanks, meaning.value, Meaning.blanks, .scan .endOfInput])
      IsText := by
  have ending : Repairs bound (scan .endOfInput) (· = []) := by
    refine .scan fun {here next} found => ?_
    obtain ⟨_, rfl⟩ := Terminal.scan_endOfInput.mp found
    exact ⟨[], rfl, .refl here⟩
  refine (repairs_blanks.cons ((repairs_element meaning bound .value).cons
    (repairs_blanks.cons ending.last))).mono ?_
  rintro _ ⟨before, _, blankBefore, ⟨value, _, valued, ⟨after, _, blankAfter, rfl, rfl⟩, rfl⟩, rfl⟩
  exact ⟨before, value, after, blankBefore, valued, blankAfter, by rw [List.append_nil]⟩

end Elements

/-! ## Builds -/

/-- A JSON text is not empty. -/
theorem IsText.ne_nil {text : List Char} (valid : IsText text) : text ≠ [] := by
  obtain ⟨built, _, _, meaning, _⟩ := exists_meaning
  obtain ⟨before, _, after, _, value, _, rfl⟩ := valid
  obtain ⟨left, inner, right, _, _, read, rfl⟩ := value.spaced meaning
  simp [read.filled]

section Builds

variable {built : Grammar} {meaning : Meaning} {source : Source}

/-- A source that the root matches is a JSON text once it is mended as the diagnostics say. -/
theorem exists_mended (whole : built.MatchesWhole)
    (root : built.effect built.root =
      .sequence [Meaning.blanks, meaning.value, Meaning.blanks, .scan .endOfInput])
    {diagnostics : List Diagnostic}
    (succeeded : ((Constructor.make built .default).construct source).result.isOk = true)
    (recorded : ((Constructor.make built .default).construct source).errors = diagnostics) :
    ∃ mended, Mended 0 source.chars diagnostics mended ∧ IsText mended := by
  obtain ⟨_, next, matched⟩ :=
    (Constructor.construct_whole whole source diagnostics).mp ⟨succeeded, recorded⟩
  have ended := Scanner.atEnd_iff.mp (whole.ends matched)
  rw [root] at matched
  obtain ⟨text, mended, taken, mends, valid⟩ :=
    repairs_text meaning _ (Nat.lt_succ_self _) matched
  have all : source.chars = text := by
    have ahead := taken.ahead
    rwa [ended, List.append_nil] at ahead
  exact ⟨mended, all ▸ mends, valid⟩

/-- A JSON text is built without diagnostics. -/
theorem construct_of_isText (whole : built.MatchesWhole)
    (root : built.effect built.root =
      .sequence [Meaning.blanks, meaning.value, Meaning.blanks, .scan .endOfInput])
    (valid : IsText source.chars) :
    ((Constructor.make built .default).construct source).result.isOk = true ∧
      ((Constructor.make built .default).construct source).errors = [] := by
  have stands : (Scanner.start source).remaining = source.chars ++ [] := (List.append_nil _).symm
  have taken := Scanner.takes_advance stands
  have matched := valid.reads meaning taken (taken.remaining_eq stands)
  rw [← root] at matched
  exact (Constructor.construct_whole whole source []).mpr ⟨valid.ne_nil, _, matched⟩

end Builds

/-- The grammar of JSON accepts exactly JSON: a text is built without diagnostics just if it is a
JSON text. -/
theorem build_iff_isText : ∃ built, grammar = .ok built ∧ ∀ source : Source,
    ((((Constructor.make built .default).build source).1.result.isOk = true ∧
      ((Constructor.make built .default).build source).2.errors = []) ↔ IsText source.chars) := by
  obtain ⟨built, known, whole, meaning, root⟩ := exists_meaning
  refine ⟨built, known, fun source => ⟨?_, construct_of_isText whole root⟩⟩
  rintro ⟨succeeded, recorded⟩
  obtain ⟨mended, mends, valid⟩ := exists_mended whole root succeeded recorded
  exact mends.eq_of_nil ▸ valid

/-- Recovery repairs: whenever a text is built with diagnostics, each of them has an empty span in
the text and names a closing bracket, and putting these in where the diagnostics point, in order,
gives a text that is built without diagnostics. -/
theorem build_repaired : ∃ built, grammar = .ok built ∧ ∀ (source : Source)
    (diagnostics : List Diagnostic),
    ((Constructor.make built .default).build source).1.result.isOk = true →
    ((Constructor.make built .default).build source).2.errors = diagnostics →
      (∀ diagnostic ∈ diagnostics, ∃ place closer,
        diagnostic = ⟨.point place, "expected " ++ closer.toString⟩ ∧ closer ∈ [']', '\x7d'] ∧
          place ≤ source.length) ∧
      ((Constructor.make built .default).build
        ⟨repaired diagnostics 0 source.chars⟩).1.result.isOk = true ∧
      ((Constructor.make built .default).build
        ⟨repaired diagnostics 0 source.chars⟩).2.errors = [] := by
  obtain ⟨built, known, whole, meaning, root⟩ := exists_meaning
  refine ⟨built, known, fun source diagnostics succeeded recorded => ?_⟩
  obtain ⟨mended, mends, valid⟩ := exists_mended whole root succeeded recorded
  refine ⟨fun diagnostic member => ?_, construct_of_isText whole root ?_⟩
  · obtain ⟨place, closer, same, listed, _, most⟩ := mends.of_mem member
    exact ⟨place, closer, same, listed, Nat.zero_add source.length ▸ most⟩
  · rwa [mends.repaired_eq]

/-- An array that is not closed, with an object whose array is not closed, and another that is not
closed either. -/
def unclosed : Source :=
  ⟨['[', '\x7b', '"', 'a', '"', ':', '[', '1', ' ', '\x7d', ',', '\x7b', '"', 'b', '"', ':', '[',
    '2']⟩

/-- The same with all arrays and objects closed. -/
def closed : Source :=
  ⟨['[', '\x7b', '"', 'a', '"', ':', '[', '1', ' ', ']', '\x7d', ',', '\x7b', '"', 'b', '"', ':',
    '[', '2', ']', '\x7d', ']']⟩

/-- One bracket is missing before a brace, and three are missing at the end. -/
theorem build_repaired_unclosed : ∃ built, grammar = .ok built ∧
    ((Constructor.make built .default).build unclosed).1.result.isOk = true ∧
    ((Constructor.make built .default).build unclosed).2.errors =
      [⟨.point 9, "expected ]"⟩, ⟨.point 18, "expected ]"⟩, ⟨.point 18, "expected \x7d"⟩,
        ⟨.point 18, "expected ]"⟩] ∧
    ((Constructor.make built .default).build closed).1.result.isOk = true ∧
    ((Constructor.make built .default).build closed).2.errors = [] := by
  obtain ⟨built, known, repairs⟩ := build_repaired
  have evaluated : (grammar.toOption.map fun built =>
      (((Constructor.make built .default).build unclosed).1.result.isOk,
        ((Constructor.make built .default).build unclosed).2.errors)) =
      some (true, [⟨.point 9, "expected ]"⟩, ⟨.point 18, "expected ]"⟩,
        ⟨.point 18, "expected \x7d"⟩, ⟨.point 18, "expected ]"⟩]) := by
    decide +kernel
  rw [known] at evaluated
  obtain ⟨succeeded, recorded⟩ := Prod.mk.inj (Option.some.inj evaluated)
  exact ⟨built, known, succeeded, recorded, (repairs unclosed _ succeeded recorded).2⟩

end Packrat.Json
