import Packrat.Proofs.Effect
import Packrat.Proofs.PatternReading

/-!
# Taking a text

A text that stands at a cursor leads from there to another cursor (`Scanner.Takes`). A part of a
grammar reads a text where it matches and takes exactly that, given what follows
(`Effect.Reads`), and fails on a text where it fails with that text ahead (`Effect.Fails`). What
sequences, choices and repetitions read follows from what their parts read and fail on: a sequence
reads one text after another, a choice reads what one part reads on which the parts before it fail
(`Effect.Reads.choice`), and a repetition reads several texts in a row if the part fails on what
follows them (`Effect.ReadsEach.repeated`).
-/

namespace Packrat

namespace Scanner

/-- A text leads from one cursor to another. -/
structure Takes (here : Scanner) (text : List Char) (next : Scanner) : Prop where
  /-- The source is the same. -/
  source : next.source = here.source
  /-- The text stands between the cursors. -/
  ahead : here.remaining = text ++ next.remaining

variable {here next middle last : Scanner} {text first second rest : List Char}

/-- How many characters stand ahead of a cursor. -/
theorem length_remaining (scanner : Scanner) :
    scanner.remaining.length = scanner.source.length - scanner.position :=
  List.length_drop

/-- The cursor is at the end just if nothing is ahead. -/
theorem atEnd_iff {scanner : Scanner} : scanner.atEnd = true ↔ scanner.remaining = [] := by
  rw [atEnd, decide_eq_true_eq]
  exact List.drop_eq_nil_iff.symm

/-- No text leads nowhere else. -/
theorem Takes.refl (scanner : Scanner) : scanner.Takes [] scanner :=
  ⟨rfl, rfl⟩

/-- One text after another leads on. -/
theorem Takes.trans (earlier : here.Takes first middle) (later : middle.Takes second next) :
    here.Takes (first ++ second) next :=
  ⟨later.source.trans earlier.source,
    by rw [earlier.ahead, later.ahead, List.append_assoc]⟩

/-- A text leads as many characters on as it has. -/
theorem Takes.position (taken : here.Takes text next) :
    next.position = here.position + text.length := by
  have lengths := congrArg List.length taken.ahead
  have inside := next.inside
  have started := here.inside
  rw [List.length_append, length_remaining, length_remaining] at lengths
  rw [taken.source] at lengths inside
  omega

/-- A text leads to one cursor only. -/
theorem Takes.unique (taken : here.Takes text next) (again : here.Takes text last) : next = last :=
  eq_of_position (taken.source.trans again.source.symm)
    (taken.position.trans again.position.symm)

/-- A text that stands at a cursor leads to the cursor after it. -/
theorem takes_advance (stands : here.remaining = text ++ rest) :
    here.Takes text (here.advance text.length) := by
  have fits : here.position + text.length ≤ here.source.length := by
    have lengths := congrArg List.length stands
    have started := here.inside
    rw [List.length_append, length_remaining] at lengths
    omega
  refine ⟨rfl, ?_⟩
  have left : (here.advance text.length).remaining = here.remaining.drop text.length := by
    change here.source.chars.drop (min (here.position + text.length) here.source.length) = _
    rw [Nat.min_eq_left fits]
    exact List.drop_drop.symm
  rw [left, stands, List.drop_left]

/-- A text that stands at the cursor is taken where a scan moves by its length. -/
theorem takes_front (front : text <+: here.remaining) :
    here.Takes text (here.advance text.length) := by
  obtain ⟨rest, stands⟩ := front
  exact takes_advance stands.symm

/-- What is ahead after a text is what followed it. -/
theorem Takes.remaining_eq (taken : here.Takes text next)
    (stands : here.remaining = text ++ rest) : next.remaining = rest :=
  List.append_cancel_left (taken.ahead.symm.trans stands)

/-- Two texts one after the other lead over a cursor in between. -/
theorem Takes.split (taken : here.Takes (first ++ second) next) :
    ∃ middle, here.Takes first middle ∧ middle.Takes second next := by
  have stands : here.remaining = first ++ (second ++ next.remaining) := by
    rw [taken.ahead, List.append_assoc]
  have reached := takes_advance stands
  exact ⟨_, reached, taken.source.trans reached.source.symm, reached.remaining_eq stands⟩

/-- Between two cursors stands a text: every character there is one of the text. -/
theorem Takes.exists_charAt (taken : here.Takes text next) {position : Nat}
    (behind : here.position ≤ position) (before : position < next.position) :
    ∃ c ∈ text, here.source.charAt position = some c := by
  obtain ⟨place, rfl⟩ := Nat.exists_eq_add_of_le behind
  have inside : place < text.length := by
    rw [taken.position] at before
    omega
  refine ⟨text[place], List.getElem_mem inside, ?_⟩
  have stands : here.remaining[place]? = some text[place] := by
    rw [taken.ahead, List.getElem?_append_left inside, List.getElem?_eq_getElem inside]
  rwa [remaining, Source.after, List.getElem?_drop] at stands

/-- The next character is the first one ahead. -/
theorem peek_eq_head? (here : Scanner) : here.peek = here.remaining.head? :=
  List.head?_drop.symm

/-- To take a character is to take the first one ahead. -/
theorem consume_eq_some_iff {c : Char} :
    here.consume = some (c, next) ↔ here.Takes [c] next := by
  unfold consume
  rw [peek_eq_head?]
  cases stands : here.remaining with
  | nil =>
    refine iff_of_false (Option.some_ne_none _).symm fun taken => ?_
    have ahead := taken.ahead
    rw [stands] at ahead
    contradiction
  | cons first rest =>
    have taken : here.Takes [first] (here.advance 1) := takes_advance stands
    rw [List.head?_cons, Option.map_some, Option.some.injEq, Prod.mk.injEq]
    constructor
    · rintro ⟨rfl, rfl⟩
      exact taken
    · intro again
      have ahead := again.ahead
      rw [stands] at ahead
      obtain ⟨rfl, -⟩ := List.cons.inj ahead
      exact ⟨rfl, taken.unique again⟩

/-- A character that a test accepts is taken if it is the next one. -/
theorem scanWhere_eq_some_iff {accept : Char → Bool} :
    here.scanWhere accept = some next ↔ ∃ c, accept c = true ∧ here.Takes [c] next := by
  have through : here.scanWhere accept = some next ↔
      ∃ c, accept c = true ∧ here.consume = some (c, next) := by
    unfold scanWhere consume
    cases here.peek with
    | none => simp
    | some c => by_cases accepted : accept c <;> simp [accepted]
  simp only [through, consume_eq_some_iff]

end Scanner

/-! ## What terminals take -/

namespace Terminal

variable {here next : Scanner}

/-- A literal takes its text. -/
theorem scan_literal {text : String} :
    (literal text).scan here = some next ↔ here.Takes text.toList next := by
  change here.scanLiteral text = some next ↔ _
  unfold Scanner.scanLiteral
  split
  · rename_i ahead
    obtain ⟨rest, stands⟩ := List.isPrefixOf_iff_prefix.mp ahead
    have taken := Scanner.takes_advance stands.symm
    rw [String.length_toList] at taken
    rw [Option.some.injEq]
    exact ⟨fun same => same ▸ taken, fun again => taken.unique again⟩
  · rename_i other
    refine iff_of_false (Option.some_ne_none _).symm fun taken => other ?_
    exact List.isPrefixOf_iff_prefix.mpr ⟨next.remaining, taken.ahead.symm⟩

/-- A set takes one of its characters. -/
theorem scan_set {members : CharacterSet} :
    (set members).scan here = some next ↔
      ∃ c, members.contains c = true ∧ here.Takes [c] next :=
  Scanner.scanWhere_eq_some_iff

/-- The end takes nothing, and is there where nothing is ahead. -/
theorem scan_endOfInput : endOfInput.scan here = some next ↔ here.remaining = [] ∧ here = next := by
  simp only [scan, Scanner.atEnd_iff]
  split
  · rename_i ended
    simp [ended]
  · rename_i more
    simp [more]

end Terminal

namespace Reader

variable {pattern : Pattern} {reader : Reader pattern} {language : List Char → Prop}
  {tail : reader.State → List Char → Prop} {here next : Scanner} {written tied : String}

/-- A pattern takes a text of the language of its reader. -/
theorem Speaks.exists_of_scan (speaks : reader.Speaks language tail)
    (found : (Terminal.regex written ⟨tied, pattern⟩).scan here = some next) :
    ∃ text, language text ∧ here.Takes text next := by
  rw [Terminal.scan, Scanner.scanRegex_eq] at found
  obtain ⟨length, matched, rfl⟩ := Option.map_eq_some_iff.mp found
  obtain ⟨text, rest, stands, rfl, spoken⟩ := speaks.exists_of_matchLength matched
  exact ⟨text, spoken, Scanner.takes_advance stands⟩

/-- A pattern takes a text of the language of its reader where the final states are stuck after it.
-/
theorem Speaks.scan_eq (speaks : reader.Speaks language tail) {text : List Char}
    (spoken : language text) (taken : here.Takes text next)
    (stuck : ∀ state, reader.isFinal state = true → reader.Stuck state next.remaining) :
    (Terminal.regex written ⟨tied, pattern⟩).scan here = some next := by
  have matched := speaks.matchLength_eq spoken stuck
  rw [← taken.ahead] at matched
  change here.scanRegex ⟨tied, pattern⟩ = some next
  rw [Scanner.scanRegex_eq]
  change (pattern.matchLength here.remaining).map here.advance = some next
  rw [matched, Option.map_some, Option.some.injEq]
  exact (Scanner.takes_advance taken.ahead).unique taken

/-- A pattern takes nothing where the first character is of no class that may come first. -/
theorem scan_of_rejected (reader : Reader pattern)
    (rejected : ∀ c ∈ here.remaining.head?, ∀ way ∈ reader.first, way.1.accepts c = false) :
    (Terminal.regex written ⟨tied, pattern⟩).scan here = none := by
  change here.scanRegex ⟨tied, pattern⟩ = none
  rw [Scanner.scanRegex_eq]
  change (pattern.matchLength here.remaining).map here.advance = none
  rw [reader.matchLength_of_rejected rejected, Option.map_none]

end Reader

/-! ## What rules read -/

namespace Effect

/-- The part matches and takes a text wherever that stands before what it may stand before. -/
def Reads (part : Scanner → Effect) (text : List Char) (before : List Char → Prop) : Prop :=
  ∀ ⦃here next⦄, here.Takes text next → before next.remaining → part here = .matched next []

/-- The part fails wherever a text is ahead. -/
def Fails (part : Scanner → Effect) (ahead : List Char) : Prop :=
  ∀ ⦃here⦄, here.remaining = ahead → part here = .failed

/-- The effect of a part that may be left out. -/
def perhaps (part : Scanner → Effect) (here : Scanner) : Effect :=
  (part here).orElse (.matched here [])

variable {part other : Scanner → Effect} {parts : List (Scanner → Effect)}
  {text first second ahead : List Char} {before between : List Char → Prop}

/-- What is read before something is read before less. -/
theorem Reads.mono (reads : Reads part text between)
    (less : ∀ rest, before rest → between rest) : Reads part text before :=
  fun _ _ taken allowed => reads taken (less _ allowed)

/-- What is read before anything is read before something. -/
theorem Reads.anywhere (reads : Reads part text fun _ => True) : Reads part text before :=
  reads.mono fun _ _ => trivial

/-- A scan matches just if the terminal takes something. -/
theorem scan_eq_matched {terminal : Terminal} {here next : Scanner}
    {diagnostics : List Diagnostic} :
    scan terminal here = .matched next diagnostics ↔
      terminal.scan here = some next ∧ diagnostics = [] := by
  unfold scan
  cases terminal.scan here <;> simp [eq_comm]

/-- A scan fails just if the terminal takes nothing. -/
theorem scan_eq_failed {terminal : Terminal} {here : Scanner} :
    scan terminal here = .failed ↔ terminal.scan here = none := by
  unfold scan
  cases terminal.scan here <;> simp

/-- A literal reads its text before anything. -/
theorem reads_literal {word : String} (same : word.toList = text) :
    Reads (scan (.literal word)) text fun _ => True := by
  subst same
  exact fun _ _ taken _ => scan_eq_matched.mpr ⟨Terminal.scan_literal.mpr taken, rfl⟩

/-- A literal fails on what does not start as it does. -/
theorem fails_literal {word : String} (c : Char) (starts : word.toList.head? = some c)
    (other : ahead.head? ≠ some c) : Fails (scan (.literal word)) ahead := by
  intro here stands
  refine scan_eq_failed.mpr (Option.eq_none_iff_forall_ne_some.mpr fun next found => other ?_)
  rw [← stands, (Terminal.scan_literal.mp found).ahead, List.head?_append, starts]
  rfl

/-! Sequences. -/

/-- A sequence of nothing reads nothing. -/
theorem reads_nil : Reads (sequence []) [] before :=
  fun _ _ taken _ => congrArg (matched · []) (Scanner.Takes.unique (.refl _) taken)

/-- A sequence reads one text after another. -/
theorem Reads.cons (leads : Reads part first between)
    (follows : Reads (sequence parts) second before)
    (joins : ∀ rest, before rest → between (second ++ rest)) :
    Reads (sequence (part :: parts)) (first ++ second) before := by
  intro here next taken allowed
  obtain ⟨middle, earlier, later⟩ := taken.split
  rw [sequence, leads earlier (later.ahead ▸ joins _ allowed), andThen, follows later allowed]
  rfl

/-- A sequence of one part reads what that does. -/
theorem Reads.last (reads : Reads part text before) : Reads (sequence [part]) text before := by
  have both := reads.cons reads_nil fun _ allowed => allowed
  rwa [List.append_nil] at both

/-- A sequence fails on what its first part fails on. -/
theorem Fails.cons (fails : Fails part ahead) : Fails (sequence (part :: parts)) ahead := by
  intro here stands
  rw [sequence, fails stands]
  rfl

/-- A sequence fails on what its first part reads before something that the others fail on. -/
theorem Reads.fails (leads : Reads part first before) (allowed : before ahead)
    (fails : Fails (sequence parts) ahead) : Fails (sequence (part :: parts)) (first ++ ahead) := by
  intro here stands
  have taken := Scanner.takes_advance stands
  have rest := taken.remaining_eq stands
  rw [sequence, leads taken (rest ▸ allowed), andThen, fails rest]
  rfl

/-! Choices. -/

/-- What is read is read where there is something else to try. -/
theorem Reads.orElse (reads : Reads part text before) :
    Reads (fun here => (part here).orElse (other here)) text before := by
  intro here next taken allowed
  simp only [reads taken allowed]
  rfl

/-- A part that may be left out reads nothing before what it fails on. -/
theorem reads_perhaps_nil (fails : ∀ rest, before rest → Fails part rest) :
    Reads (perhaps part) [] before := by
  intro here next taken allowed
  obtain rfl := Scanner.Takes.unique (.refl _) taken
  rw [perhaps, fails _ allowed rfl]
  rfl

/-- A choice reads what one part reads, if the parts before it fail there. -/
theorem Reads.choice (reads : Reads part text before) (earlier later : List (Scanner → Effect))
    (fail : ∀ part ∈ earlier, ∀ rest, before rest → Fails part (text ++ rest)) :
    Reads (choice (earlier ++ part :: later)) text before := by
  intro here next taken allowed
  induction earlier with
  | nil =>
    rw [List.nil_append, Effect.choice, reads taken allowed]
    rfl
  | cons first earlier ih =>
    obtain ⟨fails, rest⟩ := List.forall_mem_cons.mp fail
    rw [List.cons_append, Effect.choice, fails _ allowed taken.ahead]
    exact ih rest

/-- A choice fails on what every part fails on. -/
theorem fails_choice (fail : ∀ part ∈ parts, Fails part ahead) : Fails (choice parts) ahead := by
  intro here stands
  induction parts with
  | nil => rfl
  | cons part parts ih =>
    obtain ⟨fails, rest⟩ := List.forall_mem_cons.mp fail
    rw [choice, fails stands]
    exact ih rest

/-! Repetitions. -/

/-- A part reads texts one by one: each of them before what they may stand before, which the others
start with, and it fails on what may follow them all. -/
structure ReadsEach (part : Scanner → Effect) (texts : List (List Char))
    (between before : List Char → Prop) : Prop where
  /-- No text is empty. -/
  filled : ∀ text ∈ texts, text ≠ []
  /-- The part reads every text. -/
  reads : ∀ text ∈ texts, Reads part text between
  /-- Every text may follow another. -/
  joins : ∀ text ∈ texts, ∀ rest, between (text ++ rest)
  /-- What follows them all may follow the last. -/
  closes : ∀ rest, before rest → between rest
  /-- The part fails on what follows them all. -/
  fails : ∀ rest, before rest → Fails part rest

namespace ReadsEach

variable {texts : List (List Char)}

/-- A part that reads texts one by one reads those after the first one by one. -/
theorem tail (each : ReadsEach part (text :: texts) between before) :
    ReadsEach part texts between before where
  filled other member := each.filled other (List.mem_cons_of_mem _ member)
  reads other member := each.reads other (List.mem_cons_of_mem _ member)
  joins other member := each.joins other (List.mem_cons_of_mem _ member)
  closes := each.closes
  fails := each.fails

/-- The texts with what follows them all may follow another. -/
theorem between_append (each : ReadsEach part texts between before) {rest : List Char}
    (allowed : before rest) : between (texts.flatten ++ rest) := by
  cases texts with
  | nil => exact each.closes rest allowed
  | cons first later =>
    rw [List.flatten_cons, List.append_assoc]
    exact each.joins first List.mem_cons_self _

/-- There are no more texts than characters. -/
theorem length_le (each : ReadsEach part texts between before) :
    texts.length ≤ texts.flatten.length := by
  induction texts with
  | nil => exact Nat.le_refl 0
  | cons first later ih =>
    have positive := List.length_pos_iff.mpr (each.filled first List.mem_cons_self)
    have rest := ih each.tail
    rw [List.flatten_cons, List.length_append, List.length_cons]
    omega

/-- Rounds take the texts one after the other, as far as the budget goes. -/
theorem rounds_eq (each : ReadsEach part texts between before) {cardinality : Cardinality}
    {budget count : Nat} (enough : texts.length < budget)
    (settles : cardinality.accepts (count + texts.length) = true) {here next : Scanner}
    (taken : here.Takes texts.flatten next) (allowed : before next.remaining) :
    rounds part cardinality budget count here = .matched next [] := by
  induction texts generalizing budget count here with
  | nil =>
    obtain ⟨budget, rfl⟩ := Nat.exists_eq_succ_of_ne_zero (Nat.ne_of_gt enough)
    obtain rfl := Scanner.Takes.unique (.refl _) taken
    rw [rounds, each.fails _ allowed rfl]
    exact if_pos settles
  | cons first later ih =>
    obtain ⟨budget, rfl⟩ := Nat.exists_eq_succ_of_ne_zero (Nat.ne_of_gt (Nat.zero_lt_of_lt enough))
    obtain ⟨middle, earlier, rest⟩ := Scanner.Takes.split taken
    have onward : middle.position ≠ here.position := by
      have positive := List.length_pos_iff.mpr (each.filled first List.mem_cons_self)
      rw [earlier.position]
      omega
    have follows : between middle.remaining := rest.ahead ▸ each.tail.between_append allowed
    rw [rounds, each.reads first List.mem_cons_self earlier follows]
    simp only [if_neg onward, after_nil]
    refine ih each.tail (Nat.lt_of_succ_lt_succ enough) ?_ rest
    rwa [List.length_cons, ← Nat.add_assoc, Nat.add_right_comm] at settles

/-- A repetition without a greatest number reads the texts, if their number is accepted. -/
theorem repeated (each : ReadsEach part texts between before) {cardinality : Cardinality}
    (unbounded : cardinality.maximum = none)
    (settles : cardinality.accepts texts.length = true) :
    Reads (repeated part cardinality) texts.flatten before := by
  intro here next taken allowed
  rw [Effect.repeated, unbounded]
  refine each.rounds_eq ?_ ((Nat.zero_add _).symm ▸ settles) taken allowed
  have fits := congrArg List.length taken.ahead
  have fewTexts := each.length_le
  rw [List.length_append, Scanner.length_remaining] at fits
  change texts.length < here.source.length + 2
  omega

end ReadsEach

/-- A repetition that needs a success fails on what the part fails on. -/
theorem fails_repeated {cardinality : Cardinality} (unbounded : cardinality.maximum = none)
    (needed : cardinality.accepts 0 = false) (fails : Fails part ahead) :
    Fails (repeated part cardinality) ahead := by
  intro here stands
  rw [repeated, unbounded]
  change rounds part cardinality (here.source.length + 1 + 1) 0 here = _
  rw [rounds, fails stands]
  exact if_neg (Bool.not_eq_true _ ▸ needed)

end Effect

end Packrat
