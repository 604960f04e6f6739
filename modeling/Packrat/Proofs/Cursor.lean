import Packrat.Proofs.Taking

/-!
# Scanners follow the text

Whatever is done with a scanner, it stands between the characters of its source, and what it has
ahead is the text behind its position. A scan succeeds just if what it looks for stands at the
cursor, and then it moves by exactly the characters of that (`Scanner.Scan.run_eq_some_iff`). That
holds also of a search that measures what it finds in bytes, as long as it finds whole characters
(`Scanner.Search`), which the search for a pattern does (`Regex.search`).
-/

namespace Packrat

namespace Scanner

/-! ## What can be looked for -/

/-- A search that finds only stretches of whole characters. -/
structure Search where
  /-- What is found in a text. -/
  find : List Char → Option Extent
  /-- What is found starts and stops between characters. -/
  whole : ∀ text found, find text = some found → ∃ first last,
    found.start = Source.byteLength (text.take first) ∧
      found.stop = Source.byteLength (text.take last)

/-- Something that is looked for at the cursor. -/
inductive Scan where
  /-- A text. -/
  | literal (text : String)
  /-- A text up to the case of letters. -/
  | insensitive (text : String)
  /-- A character that a test accepts. -/
  | character (accept : Char → Bool)
  /-- What a search finds. -/
  | found (search : Search)

namespace Scan

/-- Looks for something at the cursor. -/
def run (here : Scanner) : Scan → Option Scanner
  | literal text => here.scanLiteral text
  | insensitive text => here.scanInsensitive text
  | character accept => here.scanWhere accept
  | found search => here.scanFound search.find

/-- Whether some characters at the front of a text are what is looked for. -/
def Accepts (ahead matched : List Char) : Scan → Prop
  | literal text => matched = text.toList
  | insensitive text =>
    List.Forall₂ (fun c expected => Unicode.lowercase c = Unicode.lowercase expected) matched
      text.toList
  | character accept => ∃ c, matched = [c] ∧ accept c = true
  | found search => search.find ahead = some ⟨0, Source.byteLength matched⟩

/-- Whether a text starts with some characters that are what is looked for. -/
def Matches (scan : Scan) (ahead matched : List Char) : Prop :=
  matched <+: ahead ∧ scan.Accepts ahead matched

end Scan

/-! ## What is done with a scanner -/

/-- Something that is done with a scanner. -/
inductive Operation where
  /-- A character is taken. -/
  | consume
  /-- The scanner is moved to a position. -/
  | moveTo (position : Nat)
  /-- Something is looked for. -/
  | scan (scan : Scan)

/-- The scanner that was found, or the one that was there, and whether there was one to be found. -/
def settle (here : Scanner) : Option Scanner → Bool × Scanner
  | some next => (true, next)
  | none => (false, here)

/-- Does something with a scanner, and says whether it could be done. -/
def Operation.perform (here : Scanner) : Operation → Bool × Scanner
  | .consume => settle here (here.consume.map Prod.snd)
  | .moveTo position => (true, here.moveTo position)
  | .scan sought => settle here (sought.run here)

/-- The scanner after some operations, the first of them at the start of a source. -/
def after (source : Source) (operations : List Operation) : Scanner :=
  operations.foldl (fun here operation => (operation.perform here).2) (start source)

variable {here next : Scanner} {ahead matched : List Char}

/-! ## Scans -/

/-- A text starts with another up to the case of letters if characters at its front are those of the
other up to the case of letters. -/
theorem startsInsensitive_iff {expected text : List Char} :
    startsInsensitive expected text = true ↔ ∃ matched, matched <+: text ∧
      List.Forall₂ (fun c other => Unicode.lowercase c = Unicode.lowercase other) matched
        expected := by
  induction expected generalizing text with
  | nil => exact iff_of_true rfl ⟨[], List.nil_prefix, .nil⟩
  | cons first later ih =>
    cases text with
    | nil =>
      refine iff_of_false Bool.false_ne_true ?_
      rintro ⟨matched, front, alike⟩
      rw [List.prefix_nil.mp front] at alike
      cases alike
    | cons c rest =>
      rw [startsInsensitive, Bool.and_eq_true, beq_iff_eq, ih]
      constructor
      · rintro ⟨same, matched, front, alike⟩
        exact ⟨c :: matched, List.cons_prefix_cons.mpr ⟨rfl, front⟩, .cons same alike⟩
      · rintro ⟨matched, front, alike⟩
        cases alike with
        | cons same alike =>
          obtain ⟨rfl, inner⟩ := List.cons_prefix_cons.mp front
          exact ⟨same, _, inner, alike⟩

namespace Scan

variable {scan : Scan}

/-- What matches at the cursor is taken. -/
theorem run_of_matches (found : scan.Matches here.remaining matched) :
    scan.run here = some (here.advance matched.length) := by
  obtain ⟨front, accepted⟩ := found
  have taken := takes_front front
  cases scan with
  | literal text =>
    obtain rfl : matched = text.toList := accepted
    exact Terminal.scan_literal.mpr taken
  | insensitive text =>
    have alike : List.Forall₂ _ matched text.toList := accepted
    have length := alike.length_eq
    rw [String.length_toList] at length
    show here.scanInsensitive text = _
    rw [scanInsensitive, if_pos (startsInsensitive_iff.mpr ⟨matched, front, accepted⟩), length]
  | character accept =>
    obtain ⟨c, rfl, passes⟩ := accepted
    exact scanWhere_eq_some_iff.mpr ⟨c, passes, taken⟩
  | found search =>
    apply scanFound_of_take
    rw [← List.prefix_iff_eq_take.mp front]
    exact accepted

/-- What is taken matched at the cursor. -/
theorem exists_matches (taken : scan.run here = some next) :
    ∃ matched, scan.Matches here.remaining matched := by
  cases scan with
  | literal text => exact ⟨_, ⟨_, (Terminal.scan_literal.mp taken).ahead.symm⟩, rfl⟩
  | insensitive text =>
    change here.scanInsensitive text = some next at taken
    rw [scanInsensitive] at taken
    split at taken
    · rename_i starts
      exact startsInsensitive_iff.mp starts
    · contradiction
  | character accept =>
    obtain ⟨c, passes, taken⟩ := scanWhere_eq_some_iff.mp taken
    exact ⟨[c], ⟨_, taken.ahead.symm⟩, c, rfl, passes⟩
  | found search =>
    change here.scanFound search.find = some next at taken
    rw [scanFound] at taken
    split at taken
    · rename_i extent found
      split at taken
      · rename_i first
        obtain ⟨_, last, -, stop⟩ := search.whole _ _ found
        refine ⟨here.remaining.take last, List.take_prefix _ _, ?_⟩
        show search.find here.remaining = some ⟨0, _⟩
        rw [found, ← first, ← stop]
      · contradiction
    · contradiction

/-- A scan leads to where it has taken what stands at the cursor and is looked for. -/
theorem run_eq_some_iff : scan.run here = some next ↔
    ∃ matched, scan.Matches here.remaining matched ∧ here.Takes matched next := by
  constructor
  · intro taken
    obtain ⟨matched, found⟩ := exists_matches taken
    have same := Option.some.inj (taken.symm.trans (run_of_matches found))
    exact ⟨matched, found, same ▸ takes_front found.1⟩
  · rintro ⟨matched, found, taken⟩
    rw [run_of_matches found]
    exact congrArg some ((takes_front found.1).unique taken)

end Scan

/-! ## Any operations -/

/-- What is settled on stands in the same source, if what was found does. -/
theorem source_settle {found : Option Scanner}
    (kept : ∀ next, found = some next → next.source = here.source) :
    (settle here found).2.source = here.source := by
  cases found with
  | none => rfl
  | some next => exact kept next rfl

/-- An operation leaves the source. -/
theorem Operation.source_perform (operation : Operation) (here : Scanner) :
    (operation.perform here).2.source = here.source := by
  cases operation with
  | consume =>
    refine source_settle fun next taken => ?_
    obtain ⟨⟨c, _⟩, consumed, rfl⟩ := Option.map_eq_some_iff.mp taken
    exact (consume_eq_some_iff.mp consumed).source
  | moveTo position => rfl
  | scan sought =>
    refine source_settle fun next taken => ?_
    obtain ⟨matched, -, taken⟩ := Scan.run_eq_some_iff.mp taken
    exact taken.source

/-- Operations leave the source. -/
theorem source_after (source : Source) (operations : List Operation) :
    (after source operations).source = source := by
  have run : ∀ here : Scanner, (operations.foldl
      (fun here operation => (operation.perform here).2) here).source = here.source := by
    induction operations with
    | nil =>
      intro here
      rfl
    | cons operation later ih =>
      intro here
      rw [List.foldl_cons, ih, operation.source_perform]
  exact run (start source)

/-- After any operations a scanner stands in its source, and ahead of it is the text without the
characters before its position, which is the text from the offset of the position on. It moves to
any position of the source, and takes the next character, if there is one. A scan succeeds just if
the text ahead starts with a match, moves by the characters of the match if it does, and leaves the
scanner as it is if it does not. -/
theorem follows_text (source : Source) (operations : List Operation) :
    let here := after source operations
    here.source = source ∧ here.position ≤ source.length ∧
    here.remaining = source.chars.drop here.position ∧
    here.remaining = Source.dropBytes source.chars (source.byteOffset here.position) ∧
    (∀ position, ((Operation.moveTo position).perform here).2.position =
      min position source.length) ∧
    (∀ c next, here.consume = some (c, next) ↔ here.remaining = c :: next.remaining ∧
      next.source = source ∧ next.position = here.position + 1) ∧
    ∀ scan : Scan,
      let outcome := (Operation.scan scan).perform here
      (outcome.1 = true ↔ ∃ matched, scan.Matches here.remaining matched) ∧
      (∀ matched, scan.Matches here.remaining matched →
        outcome.2.position = here.position + matched.length) ∧
      (outcome.1 = false → outcome.2 = here) := by
  intro here
  have inSource : here.source = source := source_after source operations
  have ahead : here.remaining = source.chars.drop here.position := by
    rw [remaining, inSource, Source.after]
  refine ⟨inSource, inSource ▸ here.inside, ahead, ?_, fun position => ?_, fun c next => ?_,
    fun scan => ⟨?_, fun matched found => ?_, fun failed => ?_⟩⟩
  · rw [Source.dropBytes_byteOffset]
    exact ahead
  · show min position here.source.length = _
    rw [inSource]
  · rw [consume_eq_some_iff]
    constructor
    · intro taken
      exact ⟨taken.ahead, taken.source.trans inSource, taken.position⟩
    · rintro ⟨stands, source, -⟩
      exact ⟨source.trans inSource.symm, stands⟩
  · show (settle here (scan.run here)).1 = true ↔ _
    cases taken : scan.run here with
    | none =>
      refine iff_of_false Bool.false_ne_true ?_
      rintro ⟨matched, found⟩
      rw [Scan.run_of_matches found] at taken
      contradiction
    | some next => exact iff_of_true rfl (Scan.exists_matches taken)
  · show (settle here (scan.run here)).2.position = _
    rw [Scan.run_of_matches found]
    exact (takes_front found.1).position
  · change (settle here (scan.run here)).1 = false at failed
    show (settle here (scan.run here)).2 = here
    cases taken : scan.run here with
    | none => rfl
    | some next =>
      rw [taken] at failed
      contradiction

end Scanner

/-- The search for a pattern finds whole characters. -/
def Regex.search (regex : Regex) : Scanner.Search where
  find := regex.find
  whole text found same := by
    obtain ⟨count, -, rfl⟩ := Option.map_eq_some_iff.mp same
    exact ⟨0, count, rfl, rfl⟩

namespace Scanner

/-- Behind a character of three bytes and a blank, a pattern takes three digits. -/
theorem follows_text_digits :
    ∃ regex, Regex.compile? "^(?:[0-9]+)" = some regex ∧
      let here := after ⟨['嗨', ' ', '1', '2', '3', ' ', 'a']⟩ [.moveTo 9, .consume, .moveTo 2]
      (Scan.found regex.search).Matches here.remaining ['1', '2', '3'] ∧
      ((Operation.scan (.found regex.search)).perform here).1 = true ∧
      ((Operation.scan (.found regex.search)).perform here).2.position = here.position + 3 := by
  have compiled : (Regex.compile? "^(?:[0-9]+)").any
      (fun regex => decide (regex.find ['1', '2', '3', ' ', 'a'] = some ⟨0, 3⟩)) = true := by
    decide +kernel
  obtain ⟨regex, parsed, checked⟩ := (Option.any_eq_true _ _).mp compiled
  have found : regex.find ['1', '2', '3', ' ', 'a'] = some ⟨0, 3⟩ := of_decide_eq_true checked
  refine ⟨regex, parsed, ?_⟩
  intro here
  have stands : (Scan.found regex.search).Matches here.remaining ['1', '2', '3'] :=
    ⟨⟨[' ', 'a'], by decide +kernel⟩, found⟩
  obtain ⟨-, -, -, -, -, -, scans⟩ := follows_text
    ⟨['嗨', ' ', '1', '2', '3', ' ', 'a']⟩ [.moveTo 9, .consume, .moveTo 2]
  obtain ⟨succeeds, moves, -⟩ := scans (.found regex.search)
  exact ⟨stands, succeeds.mpr ⟨_, stands⟩, moves _ stands⟩

end Scanner

end Packrat
