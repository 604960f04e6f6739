import Packrat.Proofs.JsonMeaning
import Packrat.Proofs.Runs

/-!
# Reading JSON

Whatever is JSON is read without a diagnostic. The syntax allows blanks in many places, and the
grammar takes them elsewhere: before a list, for instance, all of them at once. So an element is
first stripped of the blanks around it (`Json.Spaced`); what is left starts with no blank and is
read by the rule of the element before anything that may follow a value (`Json.Meaning.Reads`). That
is shown by induction on the syntax (`Json.IsElement.spaced`): the first character tells which
alternative of a value is taken, and the ones before it fail there.
-/

namespace Packrat.Json

open Effect

/-! ## Blanks and tokens -/

/-- No blank is the first of what is ahead. -/
def Unblank (ahead : List Char) : Prop :=
  ∀ c ∈ ahead.head?, Unicode.isBlank c = false

/-- Only a blank, a comma or a closing bracket may be the first of what follows a value. -/
def Closes (ahead : List Char) : Prop :=
  ∀ c ∈ ahead.head?, Unicode.isBlank c = true ∨ c ∈ [',', ']', '\x7d']

/-- A character that is no blank is the first of what it is followed by. -/
theorem unblank_cons {c : Char} (unblank : Unicode.isBlank c = false) (rest : List Char) :
    Unblank (c :: rest) := by
  intro d first
  obtain rfl := Option.some.inj first
  exact unblank

/-- Blanks and a comma or a closing bracket may follow a value. -/
theorem closes_append {blank : List Char} (blanks : AreBlank blank) {c : Char}
    (known : c ∈ [',', ']', '\x7d']) (rest : List Char) : Closes (blank ++ c :: rest) := by
  intro d first
  cases blank with
  | nil =>
    obtain rfl := Option.some.inj first
    exact .inr known
  | cons e later =>
    obtain rfl := Option.some.inj first
    exact .inl (blanks _ List.mem_cons_self)

/-- What starts with none of some characters starts with none of them. -/
theorem head?_ne {c : Char} {members ahead : List Char} (other : c ∉ members)
    (first : ahead.head? = some c) : ∀ d ∈ members, ahead.head? ≠ some d := by
  intro d member same
  obtain rfl := Option.some.inj (first.symm.trans same)
  exact other member

/-- Blanks are read before what is no blank. -/
theorem reads_blanks {text : List Char} (blank : AreBlank text) :
    Reads Meaning.blanks text Unblank := by
  by_cases none : text = []
  · subst none
    exact reads_perhaps_nil fun rest unblank => fails_run unblank
  · have run : IsRun CharacterSet.whitespacesAndNewlines.contains text := ⟨none, blank⟩
    exact (reads_run run).orElse

/-- A string is read before anything. -/
theorem reads_string {text : List Char} (string : IsString text) :
    Reads Meaning.string text fun _ => True :=
  fun _ next taken _ =>
    scan_eq_matched.mpr ⟨Text.speaks.scan_eq string taken (Text.stuck next.remaining), rfl⟩

/-- No string is read where no quotation mark is ahead. -/
theorem fails_string {ahead : List Char} (other : ahead.head? ≠ some '"') :
    Fails Meaning.string ahead := by
  intro here stands
  refine scan_eq_failed.mpr (Text.reader.scan_of_rejected fun c first way member => ?_)
  obtain rfl := List.mem_singleton.mp member
  refine Bool.eq_false_iff.mpr fun accepts => other ?_
  rw [← stands, ← CharClass.accepts_single.mp accepts]
  exact first

/-- A number is read before what may follow a value. -/
theorem reads_number {text : List Char} (number : IsNumber text) :
    Reads Meaning.number text Closes := by
  intro here next taken closes
  have ends : Number.EndsBefore next.remaining := by
    have apart : ∀ cls ∈ [Number.digit, Number.point, Number.mark],
        (CharClass.mk Unicode.blankRanges).areApart cls = true := by decide
    intro c first
    rcases closes c first with blank | mark
    · exact fun cls listed => CharClass.apart_of_areApart (apart cls listed) c blank
    · simp only [List.mem_cons, List.not_mem_nil, or_false] at mark
      rcases mark with rfl | rfl | rfl <;> decide
  exact scan_eq_matched.mpr ⟨Number.speaks.scan_eq number taken
    (Number.stuck_of_endsBefore ends), rfl⟩

/-- No number is read where neither a sign nor a digit is ahead. -/
theorem fails_number {ahead : List Char}
    (other : ∀ c ∈ ahead.head?, ∀ way ∈ Number.reader.first, way.1.accepts c = false) :
    Fails Meaning.number ahead := by
  intro here stands
  exact scan_eq_failed.mpr (Number.reader.scan_of_rejected (stands ▸ other))

/-- Nothing between brackets is read where the opening bracket is not ahead. -/
theorem fails_delimited {opening word : String} {element : Scanner → Effect} {ahead : List Char}
    (c : Char) (starts : opening.toList.head? = some c) (other : ahead.head? ≠ some c) :
    Fails (Meaning.delimited opening element word) ahead :=
  (fails_literal c starts other).cons

/-! ## Elements -/

/-- The effect of elements. -/
def Meaning.element (meaning : Meaning) : Element → Scanner → Effect
  | .value => meaning.value
  | .member => meaning.member

/-- A text that starts with no blank and is read as an element before what may follow a value. -/
structure Meaning.Reads (meaning : Meaning) (element : Element) (text : List Char) : Prop where
  /-- The text is not empty. -/
  filled : text ≠ []
  /-- No blank comes first. -/
  unblank : Unblank text
  /-- The text is read. -/
  reads : Effect.Reads (meaning.element element) text Closes

/-- A text that is read as a comma and another element before what may follow a value. -/
structure Meaning.ReadsAnother (meaning : Meaning) (element : Element) (text : List Char) :
    Prop where
  /-- The text is not empty. -/
  filled : text ≠ []
  /-- The text may follow a value. -/
  closes : Closes text
  /-- The text is read. -/
  reads : Effect.Reads (Meaning.another (meaning.element element)) text Closes

/-- A text that is read as an element and others after commas. -/
def Meaning.ReadsRow (meaning : Meaning) (element : Element) (text : List Char) : Prop :=
  ∃ (first : List Char) (others : List (List Char)), meaning.Reads element first ∧
    (∀ other ∈ others, meaning.ReadsAnother element other) ∧ text = first ++ others.flatten

/-- Blanks, if there are any, and a closing bracket are ahead. -/
def Ends (ahead : List Char) : Prop :=
  ∃ blank closer rest, AreBlank blank ∧ closer ∈ [']', '\x7d'] ∧ ahead = blank ++ closer :: rest

/-- The first of a text that is not empty is the first of what is ahead. -/
theorem head?_append_of_filled {text : List Char} (filled : text ≠ []) (rest : List Char) :
    (text ++ rest).head? = text.head? := by
  cases text with
  | nil => contradiction
  | cons c later => rfl

/-- An element starts with no blank, whatever follows it. -/
theorem Meaning.Reads.unblank_append {meaning : Meaning} {element : Element} {text : List Char}
    (read : meaning.Reads element text) (rest : List Char) : Unblank (text ++ rest) := by
  rw [Unblank, head?_append_of_filled read.filled]
  exact read.unblank

/-- What closes a list may follow a value. -/
theorem closes_of_ends {ahead : List Char} (ends : Ends ahead) : Closes ahead := by
  obtain ⟨blank, closer, rest, blanks, known, rfl⟩ := ends
  exact closes_append blanks (List.mem_cons_of_mem _ known) rest

/-- A closing bracket is no blank. -/
theorem unblank_of_closer {closer : Char} (known : closer ∈ [']', '\x7d']) (rest : List Char) :
    Unblank (closer :: rest) := by
  rcases List.mem_pair.mp known with rfl | rfl <;> exact unblank_cons rfl rest

section Rows

variable {meaning : Meaning} {element : Element} {text : List Char}

/-- A comma with blanks around it and an element are read as another element. -/
theorem Meaning.Reads.another (read : meaning.Reads element text) {before after : List Char}
    (blankBefore : AreBlank before) (blankAfter : AreBlank after) :
    meaning.ReadsAnother element (before ++ ([','] ++ (after ++ text))) where
  filled := by simp
  closes := closes_append blankBefore (by decide) _
  reads :=
    (reads_blanks blankBefore).cons ((reads_literal rfl).cons
      ((reads_blanks blankAfter).cons read.reads.last fun rest _ => read.unblank_append rest)
      fun _ _ => trivial) fun _ _ => unblank_cons rfl _

/-- No other element is read where a list ends. -/
theorem fails_another {ahead : List Char} (ends : Ends ahead) {part : Scanner → Effect} :
    Fails (Meaning.another part) ahead := by
  obtain ⟨blank, closer, rest, blanks, known, rfl⟩ := ends
  have differs : (closer :: rest).head? ≠ some ',' := by
    rcases List.mem_pair.mp known with rfl | rfl <;> simp
  exact (reads_blanks blanks).fails (unblank_of_closer known rest)
    (fails_literal ',' rfl differs).cons

/-- An element and others after commas are read as a list where it ends. -/
theorem Meaning.ReadsRow.reads (row : meaning.ReadsRow element text) :
    Effect.Reads (Meaning.separated (meaning.element element)) text Ends := by
  obtain ⟨first, others, leads, follow, rfl⟩ := row
  have each : ReadsEach (Meaning.another (meaning.element element)) others Closes Ends := {
    filled := fun other member => (follow other member).filled
    reads := fun other member => (follow other member).reads
    joins := by
      intro other member rest
      rw [Closes, head?_append_of_filled (follow other member).filled]
      exact (follow other member).closes
    closes := fun _ => closes_of_ends
    fails := fun _ ends => fails_another ends }
  have counted : Cardinality.zeroOrMore.accepts others.length = true :=
    Bool.and_eq_true_iff.mpr ⟨decide_eq_true (Nat.zero_le _), rfl⟩
  exact (leads.reads.cons (each.repeated rfl counted).last fun _ ends =>
    each.between_append ends).orElse

/-- An element and others after commas start with no blank. -/
theorem Meaning.ReadsRow.unblank (row : meaning.ReadsRow element text) (rest : List Char) :
    Unblank (text ++ rest) := by
  obtain ⟨first, others, leads, _, rfl⟩ := row
  rw [List.append_assoc]
  exact leads.unblank_append _

/-- A list is read between brackets with blanks around it, whatever follows, if it is read as a list
and no blank comes before the closing bracket or the list. -/
theorem reads_delimited {opening word : String} {opener closer : Char}
    (opens : opening.toList = [opener]) (shuts : word.toList = [closer])
    (known : closer ∈ [']', '\x7d']) {part : Scanner → Effect} {listed before after : List Char}
    {between : List Char → Prop} (blankBefore : AreBlank before) (blankAfter : AreBlank after)
    (reads : Effect.Reads (Meaning.separated part) listed between)
    (allowed : ∀ rest, between (after ++ closer :: rest))
    (unblank : ∀ rest, Unblank (listed ++ (after ++ closer :: rest))) :
    Effect.Reads (Meaning.delimited opening part word)
      ([opener] ++ (before ++ (listed ++ (after ++ [closer])))) fun _ => True := by
  have closing : Effect.Reads (Meaning.closing word) [closer] fun _ => True :=
    (reads_literal shuts).orElse
  have joined : ∀ rest,
      listed ++ (after ++ [closer]) ++ rest = listed ++ (after ++ closer :: rest) := by
    intro rest
    simp only [List.append_assoc, List.singleton_append]
  refine (reads_literal opens).cons ((reads_blanks blankBefore).cons (reads.cons
    ((reads_blanks blankAfter).cons closing.last fun rest _ => unblank_of_closer known rest)
    fun rest _ => ?_) fun rest _ => joined rest ▸ unblank rest) fun _ _ => trivial
  rw [List.append_assoc]
  exact allowed rest

end Rows

/-! ## Values -/

/-- A text of a language with blanks around it. -/
def Spaced (language : List Char → Prop) (text : List Char) : Prop :=
  ∃ before inner after, AreBlank before ∧ AreBlank after ∧ language inner ∧
    text = before ++ (inner ++ after)

/-- No blanks are blanks. -/
theorem areBlank_nil : AreBlank [] :=
  fun _ member => absurd member List.not_mem_nil

/-- Blanks after blanks are blanks. -/
theorem AreBlank.append {first second : List Char} (leads : AreBlank first)
    (follows : AreBlank second) : AreBlank (first ++ second) :=
  fun c member => (List.mem_append.mp member).elim (leads c) (follows c)

/-- A text of a language has blanks around it, namely none. -/
theorem Spaced.tight {language : List Char → Prop} {text : List Char} (spoken : language text) :
    Spaced language text :=
  ⟨[], text, [], areBlank_nil, areBlank_nil, spoken, (List.append_nil text).symm⟩

section Values

variable {meaning : Meaning} {element : Element} {text : List Char}

/-- The alternatives of a value that are tried before the literals. -/
def Meaning.tokens (meaning : Meaning) : List (Scanner → Effect) :=
  [Meaning.delimited "\x7b" meaning.member "\x7d", Meaning.delimited "[" meaning.value "]",
    Meaning.string, Meaning.number]

/-- Brackets, strings and numbers fail on a character that none of them starts with. -/
theorem Meaning.fails_tokens {c : Char} (other : c ∉ ['\x7b', '[', '"'])
    (rejected : ∀ way ∈ Number.reader.first, way.1.accepts c = false) {ahead : List Char}
    (first : ahead.head? = some c) : ∀ part ∈ meaning.tokens, Fails part ahead := by
  have differs := head?_ne other first
  simp only [tokens, List.forall_mem_cons, List.not_mem_nil, false_imp_iff, implies_true, and_true]
  refine ⟨fails_delimited '\x7b' rfl (differs _ (by decide)),
    fails_delimited '[' rfl (differs _ (by decide)), fails_string (differs _ (by decide)),
    fails_number ?_⟩
  intro d seen
  rw [first] at seen
  obtain rfl := Option.some.inj seen
  exact rejected

/-- Literals are tried after brackets, strings and numbers. -/
theorem Meaning.value_eq_choice (meaning : Meaning) :
    meaning.value = .choice (meaning.tokens ++ [Meaning.bool, Meaning.null]) :=
  meaning.value_eq

/-- The literals for truth values fail on what starts neither. -/
theorem fails_bool {ahead : List Char} (first : ahead.head? ≠ some 't')
    (second : ahead.head? ≠ some 'f') : Fails Meaning.bool ahead := by
  refine fails_choice ?_
  simp only [List.forall_mem_cons, List.not_mem_nil, false_imp_iff, implies_true, and_true]
  exact ⟨fails_literal 't' rfl first, fails_literal 'f' rfl second⟩

/-- No element starts with a closing bracket. -/
theorem Meaning.fails_element {closer : Char} (known : closer ∈ [']', '\x7d']) (rest : List Char) :
    Fails (meaning.element element) (closer :: rest) := by
  have noOpening : closer ∉ ['\x7b', '[', '"'] := by
    rcases List.mem_pair.mp known with rfl | rfl <;> decide
  have noLetter : closer ∉ ['t', 'f', 'n'] := by
    rcases List.mem_pair.mp known with rfl | rfl <;> decide
  have rejected : ∀ way ∈ Number.reader.first, way.1.accepts closer = false := by
    rcases List.mem_pair.mp known with rfl | rfl <;> decide
  have first : (closer :: rest).head? = some closer := rfl
  cases element with
  | value =>
    have literals : ∀ part ∈ [Meaning.bool, Meaning.null], Fails part (closer :: rest) := by
      have differs := head?_ne noLetter first
      simp only [List.forall_mem_cons, List.not_mem_nil, false_imp_iff, implies_true, and_true]
      exact ⟨fails_bool (differs _ (by decide)) (differs _ (by decide)),
        fails_literal 'n' rfl (differs _ (by decide))⟩
    have tokens : ∀ part ∈ meaning.tokens, Fails part (closer :: rest) :=
      fails_tokens noOpening rejected first
    rw [Meaning.element, meaning.value_eq_choice]
    exact fails_choice fun part member =>
      (List.mem_append.mp member).elim (tokens part) (literals part)
  | member =>
    rw [Meaning.element, meaning.member_eq]
    exact (fails_string (head?_ne noOpening first _ (by decide))).cons

/-- What an alternative reads is read as a value, if it starts with no blank and the alternatives
before fail on its first character. -/
theorem Meaning.reads_alternative {part : Scanner → Effect} {c : Char} {later : List Char}
    (earlier others : List (Scanner → Effect))
    (listed : meaning.tokens ++ [Meaning.bool, Meaning.null] = earlier ++ part :: others)
    (reads : Effect.Reads part (c :: later) Closes) (unblank : Unicode.isBlank c = false)
    (fail : ∀ ahead : List Char, ahead.head? = some c → ∀ part ∈ earlier, Fails part ahead) :
    meaning.Reads .value (c :: later) where
  filled := List.cons_ne_nil c later
  unblank := unblank_cons unblank later
  reads := by
    rw [Meaning.element, meaning.value_eq_choice, listed]
    exact reads.choice earlier others fun part member rest _ => fail _ rfl part member

/-- The literal `true` is read as a value. -/
theorem Meaning.reads_true : meaning.Reads .value ['t', 'r', 'u', 'e'] := by
  have word : Effect.Reads (scan (.literal "true")) ['t', 'r', 'u', 'e'] fun _ => True :=
    reads_literal rfl
  have reads : Effect.Reads Meaning.bool ['t', 'r', 'u', 'e'] fun _ => True :=
    word.choice [] [_] fun _ member => absurd member List.not_mem_nil
  exact reads_alternative meaning.tokens [_] rfl reads.anywhere rfl
    fun _ first => fails_tokens (by decide) (by decide) first

/-- The literal `false` is read as a value. -/
theorem Meaning.reads_false : meaning.Reads .value ['f', 'a', 'l', 's', 'e'] := by
  have word : Effect.Reads (scan (.literal "false")) ['f', 'a', 'l', 's', 'e'] fun _ => True :=
    reads_literal rfl
  have reads : Effect.Reads Meaning.bool ['f', 'a', 'l', 's', 'e'] fun _ => True := by
    refine word.choice [_] [] fun part member rest _ => ?_
    obtain rfl := List.mem_singleton.mp member
    exact fails_literal 't' rfl (by simp)
  exact reads_alternative meaning.tokens [_] rfl reads.anywhere rfl
    fun _ first => fails_tokens (by decide) (by decide) first

/-- The literal `null` is read as a value. -/
theorem Meaning.reads_null : meaning.Reads .value ['n', 'u', 'l', 'l'] := by
  have word : Effect.Reads Meaning.null ['n', 'u', 'l', 'l'] fun _ => True :=
    reads_literal rfl
  refine reads_alternative (meaning.tokens ++ [Meaning.bool]) [] rfl word.anywhere
    rfl fun ahead first part member => ?_
  rcases List.mem_append.mp member with token | bool
  · exact fails_tokens (by decide) (by decide) first part token
  · obtain rfl := List.mem_singleton.mp bool
    exact fails_bool (by simp [first]) (by simp [first])

/-- A string is read as a value. -/
theorem Meaning.reads_string (string : IsString text) : meaning.Reads .value text := by
  obtain ⟨characters, each, rfl⟩ := string
  refine reads_alternative [_, _] [_, _, _] rfl
    (Json.reads_string ⟨characters, each, rfl⟩).anywhere rfl fun ahead first => ?_
  simp only [List.forall_mem_cons, List.not_mem_nil, false_imp_iff, implies_true, and_true]
  exact ⟨fails_delimited '\x7b' rfl (by simp [first]), fails_delimited '[' rfl (by simp [first])⟩

/-- A number is read as a value. -/
theorem Meaning.reads_number (number : IsNumber text) : meaning.Reads .value text := by
  have reads := Json.reads_number number
  cases text with
  | nil => exact absurd number Number.speaks.nil
  | cons c later =>
    obtain ⟨way, listed, accepts, _⟩ := (Number.speaks.cons c later).mp number
    have apart : ∀ way ∈ Number.reader.first,
        (CharClass.mk Unicode.blankRanges).areApart way.1 = true := by decide
    have others : ∀ way ∈ Number.reader.first,
        ['\x7b', '[', '"'].all (!way.1.accepts ·) = true := by decide
    have other : c ∉ ['\x7b', '[', '"'] := by
      intro member
      have rejected := List.all_eq_true.mp (others way listed) c member
      rw [accepts] at rejected
      contradiction
    have unblank : Unicode.isBlank c = false := by
      refine Bool.eq_false_iff.mpr fun blank => ?_
      rw [CharClass.apart_of_areApart (apart way listed) c blank] at accepts
      contradiction
    refine reads_alternative [_, _, _] [_, _] rfl reads unblank fun ahead first => ?_
    have differs := head?_ne other first
    simp only [List.forall_mem_cons, List.not_mem_nil, false_imp_iff, implies_true, and_true]
    exact ⟨fails_delimited '\x7b' rfl (differs _ (by decide)),
      fails_delimited '[' rfl (differs _ (by decide)), fails_string (differs _ (by decide))⟩

/-- A list between brackets is read as such, with blanks around it. -/
theorem spaced_delimited (opening word : String) {opener closer : Char}
    (opens : opening.toList = [opener]) (shuts : word.toList = [closer])
    (known : closer ∈ [']', '\x7d']) {left listed right : List Char}
    (leads : IsStructural opener left) (ends : IsStructural closer right)
    (row : listed = [] ∨ Spaced (meaning.ReadsRow element) listed) :
    Spaced (fun text => text.head? = some opener ∧
      Effect.Reads (Meaning.delimited opening (meaning.element element) word) text fun _ => True)
      (left ++ (listed ++ right)) := by
  obtain ⟨outside, inside, blankOutside, blankInside, rfl⟩ := leads
  obtain ⟨within, beyond, blankWithin, blankBeyond, rfl⟩ := ends
  rcases row with rfl | ⟨before, text, after, blankBefore, blankAfter, row, rfl⟩
  · -- all blanks between the brackets are read before the list, which is left out
    have nothing : Effect.Reads (Meaning.separated (meaning.element element)) []
        fun ahead => ∃ rest, ahead = closer :: rest := by
      refine reads_perhaps_nil ?_
      rintro _ ⟨rest, rfl⟩
      exact (Meaning.fails_element known rest).cons
    refine ⟨outside, _, beyond, blankOutside, blankBeyond, ⟨rfl, reads_delimited opens shuts known
      (blankInside.append blankWithin) areBlank_nil nothing (fun rest => ⟨rest, rfl⟩)
      (unblank_of_closer known)⟩, ?_⟩
    simp only [List.append_assoc, List.cons_append, List.nil_append]
  · refine ⟨outside, _, beyond, blankOutside, blankBeyond, ⟨rfl, reads_delimited opens shuts known
      (blankInside.append blankBefore) (blankAfter.append blankWithin) row.reads
      (fun rest => ⟨after ++ within, closer, rest, blankAfter.append blankWithin, known, rfl⟩)
      fun rest => row.unblank _⟩, ?_⟩
    simp only [List.append_assoc, List.cons_append, List.nil_append]

/-- An object is read as a value. -/
theorem Meaning.reads_object (first : text.head? = some '\x7b')
    (reads : Effect.Reads (Meaning.delimited "\x7b" meaning.member "\x7d") text fun _ => True) :
    meaning.Reads .value text := by
  obtain ⟨later, rfl⟩ := List.head?_eq_some_iff.mp first
  exact reads_alternative [] [_, _, _, _, _] rfl reads.anywhere rfl
    fun _ _ _ member => absurd member List.not_mem_nil

/-- An array is read as a value. -/
theorem Meaning.reads_array (first : text.head? = some '[')
    (reads : Effect.Reads (Meaning.delimited "[" meaning.value "]") text fun _ => True) :
    meaning.Reads .value text := by
  obtain ⟨later, rfl⟩ := List.head?_eq_some_iff.mp first
  refine reads_alternative [_] [_, _, _, _] rfl reads.anywhere rfl
    fun ahead seen part member => ?_
  obtain rfl := List.mem_singleton.mp member
  exact fails_delimited '\x7b' rfl (by simp [seen])

/-- A name and a value with a colon in between are read as a member. -/
theorem Meaning.reads_member {name before after : List Char} (named : IsString name)
    (blankBefore : AreBlank before) (blankAfter : AreBlank after)
    (read : meaning.Reads .value text) :
    meaning.Reads .member (name ++ (before ++ ([':'] ++ (after ++ text)))) where
  filled := by
    obtain ⟨characters, _, rfl⟩ := named
    simp
  unblank := by
    obtain ⟨characters, _, rfl⟩ := named
    exact unblank_cons rfl _
  reads := by
    rw [Meaning.element, meaning.member_eq]
    exact (Json.reads_string named).cons ((reads_blanks blankBefore).cons ((reads_literal rfl).cons
      ((reads_blanks blankAfter).cons read.reads.last fun rest _ => read.unblank_append rest)
      fun _ _ => trivial) fun _ _ => unblank_cons rfl _) fun _ _ => trivial

mutual
/-- An element is read, with blanks around it. -/
theorem IsElement.spaced (meaning : Meaning) {element : Element} {text : List Char} :
    IsElement element text → Spaced (meaning.Reads element) text
  | .false => .tight Meaning.reads_false
  | .null => .tight Meaning.reads_null
  | .true => .tight Meaning.reads_true
  | .object opens listed closes => by
    obtain ⟨before, inner, after, blankBefore, blankAfter, ⟨first, reads⟩, same⟩ :=
      spaced_delimited "\x7b" "\x7d" rfl rfl (by decide) opens closes (listed.spaced meaning)
    exact ⟨before, inner, after, blankBefore, blankAfter, Meaning.reads_object first reads, same⟩
  | .array opens listed closes => by
    obtain ⟨before, inner, after, blankBefore, blankAfter, ⟨first, reads⟩, same⟩ :=
      spaced_delimited "[" "]" rfl rfl (by decide) opens closes (listed.spaced meaning)
    exact ⟨before, inner, after, blankBefore, blankAfter, Meaning.reads_array first reads, same⟩
  | .number number => .tight (Meaning.reads_number number)
  | .string string => .tight (Meaning.reads_string string)
  | .member named separates valued => by
    obtain ⟨left, right, blankLeft, blankRight, rfl⟩ := separates
    obtain ⟨before, inner, after, blankBefore, blankAfter, read, rfl⟩ := valued.spaced meaning
    refine ⟨[], _, after, areBlank_nil, blankAfter,
      Meaning.reads_member named blankLeft (blankRight.append blankBefore) read, ?_⟩
    simp only [List.append_assoc, List.cons_append, List.nil_append]

/-- What may stand between brackets is nothing or read as a list, with blanks around it. -/
theorem IsListing.spaced (meaning : Meaning) {element : Element} {text : List Char} :
    IsListing element text → text = [] ∨ Spaced (meaning.ReadsRow element) text
  | .none => .inl rfl
  | .some separated => .inr (separated.spaced meaning)

/-- Elements with commas in between are read as a list, with blanks around it. -/
theorem IsSeparated.spaced (meaning : Meaning) {element : Element} {text : List Char} :
    IsSeparated element text → Spaced (meaning.ReadsRow element) text
  | .one only => by
    obtain ⟨before, inner, after, blankBefore, blankAfter, read, rfl⟩ := only.spaced meaning
    have row : meaning.ReadsRow element inner :=
      ⟨inner, [], read, fun _ member => absurd member List.not_mem_nil, (List.append_nil _).symm⟩
    exact ⟨before, inner, after, blankBefore, blankAfter, row, rfl⟩
  | .more leads separates follows => by
    obtain ⟨before, inner, between, blankBefore, blankBetween, read, rfl⟩ := leads.spaced meaning
    obtain ⟨left, right, blankLeft, blankRight, rfl⟩ := separates
    obtain ⟨within, _, after, blankWithin, blankAfter, ⟨first, others, next, rest, rfl⟩, rfl⟩ :=
      follows.spaced meaning
    have another := next.another (blankBetween.append blankLeft) (blankRight.append blankWithin)
    refine ⟨before, _, after, blankBefore, blankAfter,
      ⟨inner, _ :: others, read, List.forall_mem_cons.mpr ⟨another, rest⟩, rfl⟩, ?_⟩
    simp only [List.append_assoc, List.cons_append, List.nil_append, List.flatten_cons]
end

/-- A JSON text is read as a value with blanks around it, up to the end. -/
theorem IsText.reads (meaning : Meaning) (valid : IsText text) :
    Effect.Reads (.sequence [Meaning.blanks, meaning.value, Meaning.blanks, .scan .endOfInput]) text
      (· = []) := by
  obtain ⟨before, _, after, blankBefore, value, blankAfter, rfl⟩ := valid
  obtain ⟨left, inner, right, blankLeft, blankRight, read, rfl⟩ := value.spaced meaning
  have ending : Effect.Reads (.scan .endOfInput) [] (· = []) := by
    intro here next taken ended
    obtain rfl := Scanner.Takes.unique (.refl here) taken
    exact scan_eq_matched.mpr ⟨Terminal.scan_endOfInput.mpr ⟨ended, rfl⟩, rfl⟩
  have closes : ∀ rest, rest = [] → Closes (right ++ after ++ [] ++ rest) := by
    rintro _ rfl c first
    rw [List.append_nil, List.append_nil] at first
    exact .inl (blankRight.append blankAfter c (List.mem_of_mem_head? first))
  have unblank : ∀ rest, rest = [] → Unblank ([] ++ rest) := by
    rintro _ rfl c first
    contradiction
  have rest := (reads_blanks (blankRight.append blankAfter)).cons ending.last unblank
  have all := (reads_blanks (blankBefore.append blankLeft)).cons (read.reads.cons rest closes)
    fun ahead _ => (List.append_assoc inner _ ahead).symm ▸ read.unblank_append _
  simpa only [List.append_assoc, List.append_nil, Meaning.element] using all

end Values

end Packrat.Json
