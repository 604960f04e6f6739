import Packrat.Proofs.Nullability
import Packrat.Proofs.RepetitionCounts

/-!
# Terminals that take nothing

A terminal is held to match without taking a character if it does so in the text in which there is
nothing. What an assertion says at the start of a text it also says where there is no text, unless
it asks for the start of a word: a word can only start before a character
(`Assertion.holds_of_nothing`). So a pattern that matches at the start of a text without taking a
character also matches where there is none, if it asserts no word boundary or no word starts the
text (`Pattern.IsCounted.isSome_matchLength`), and a terminal that takes nothing is held to be able
to with this one exception (`Terminal.canBeEmpty_of_scan`, `Terminal.boundary_not_canBeEmpty`).
-/

namespace Packrat

variable {P : Type}

open Relation (ReflTransGen)

/-! ## Assertions -/

/-- What is asserted at the start of a text holds where there is no text, unless a word is asserted
to start and does. -/
theorem Assertion.holds_of_nothing {condition : Assertion} {text : List Char}
    (holds : condition.holds ⟨none, text⟩ = true)
    (plain : condition ≠ .wordBoundary ∨ text.head?.any Unicode.isWord = false) :
    condition.holds ⟨none, []⟩ = true := by
  cases condition with
  | wordBoundary =>
    rcases plain with plain | noWord
    · contradiction
    · simp [Assertion.holds, Cursor.atWordBoundary, noWord] at holds
  | _ => rfl

namespace Pattern

/-- Whether a pattern asserts somewhere that a word starts or ends. -/
def assertsBoundary : Pattern → Bool
  | assertion condition => condition == .wordBoundary
  | sequence first second => first.assertsBoundary || second.assertsBoundary
  | alternative first second => first.assertsBoundary || second.assertsBoundary
  | repeated _ _ _ body => body.assertsBoundary
  | numbered _ body => body.assertsBoundary
  | empty => false
  | one _ => false

end Pattern

/-- Whether what a thread has left to match asserts somewhere that a word starts or ends. -/
def Goal.assertsBoundary : Goal → Bool
  | .part _ pattern => pattern.assertsBoundary
  | .again _ _ body => body.assertsBoundary

namespace Thread

variable {thread way found : Thread} {text : List Char}

/-- A thread asserts no word boundary. -/
def IsPlain (thread : Thread) : Prop :=
  ∀ goal ∈ thread, goal.assertsBoundary = false

/-- One more goal that asserts no word boundary leaves a thread plain. -/
theorem IsPlain.cons {goal : Goal} (plain : thread.IsPlain) (also : goal.assertsBoundary = false) :
    IsPlain (goal :: thread) :=
  List.forall_mem_cons.mpr ⟨also, plain⟩

/-- What a repetition may become does not hang on the cursor. -/
theorem unfold_repeated_eq (cursor other : Cursor) (place : Nat) (later : Thread) (minimum : Nat)
    (maximum : Option Nat) (greedy : Bool) (body : Pattern) :
    unfold cursor place later (.repeated minimum maximum greedy body) =
      unfold other place later (.repeated minimum maximum greedy body) := by
  match minimum, maximum with
  | 0, none => rfl
  | 1, none => rfl
  | 0, some 0 => rfl
  | 0, some (more + 1) => rfl
  | minimum + 2, none => rfl
  | minimum + 1, some most => simp only [unfold]

/-- What a repetition of a plain body may become is plain. -/
theorem IsPlain.unfold_repeated {cursor : Cursor} {place : Nat} {later : Thread} {minimum : Nat}
    {maximum : Option Nat} {greedy : Bool} {body : Pattern} (plain : later.IsPlain)
    (inside : body.assertsBoundary = false)
    (listed : way ∈ unfold cursor place later (.repeated minimum maximum greedy body)) :
    way.IsPlain := by
  have round : ∀ goal : Goal, goal.assertsBoundary = false →
      IsPlain (.part (place + 1) body :: goal :: later) :=
    fun goal also => (plain.cons also).cons inside
  match minimum, maximum with
  | 0, none =>
    simp only [unfold] at listed
    split at listed
    · rcases mem_fork.mp listed with rfl | rfl
      · exact round _ inside
      · exact plain
    · obtain rfl := List.mem_singleton.mp listed
      exact plain.cons inside
  | 1, none =>
    obtain rfl := List.mem_singleton.mp listed
    exact round _ inside
  | 0, some 0 =>
    obtain rfl := List.mem_singleton.mp listed
    exact plain
  | 0, some (more + 1) =>
    rcases mem_fork.mp listed with rfl | rfl
    · exact round _ inside
    · exact plain
  | minimum + 2, none =>
    obtain rfl := List.mem_singleton.mp listed
    exact round _ inside
  | minimum + 1, some most =>
    obtain rfl : way = .part (place + 1) body :: _ := by
      simpa only [unfold, List.mem_singleton] using listed
    exact round _ inside

/-- What a plain thread may become is plain. -/
theorem IsPlain.ways {cursor : Cursor} (plain : thread.IsPlain)
    (listed : way ∈ Thread.ways cursor thread) : way.IsPlain := by
  match thread with
  | [] => contradiction
  | .again place greedy body :: later =>
    obtain ⟨inside, behind⟩ := List.forall_mem_cons.mp plain
    rcases mem_fork.mp listed with rfl | rfl
    · exact plain.cons inside
    · exact behind
  | .part place pattern :: later =>
    obtain ⟨inside, rest⟩ := List.forall_mem_cons.mp plain
    have behind : IsPlain later := rest
    cases pattern with
    | empty =>
      obtain rfl := List.mem_singleton.mp listed
      exact behind
    | one cls => contradiction
    | assertion condition =>
      simp only [Thread.ways, unfold] at listed
      split at listed
      · obtain rfl := List.mem_singleton.mp listed
        exact behind
      · contradiction
    | sequence first second =>
      obtain rfl := List.mem_singleton.mp listed
      obtain ⟨front, back⟩ := Bool.or_eq_false_iff.mp inside
      have next : IsPlain (.part (place + 1 + first.nodes) second :: later) := behind.cons back
      exact next.cons front
    | alternative first second =>
      obtain ⟨front, back⟩ := Bool.or_eq_false_iff.mp inside
      rcases List.mem_pair.mp listed with rfl | rfl
      · exact behind.cons front
      · exact behind.cons back
    | repeated minimum maximum greedy body =>
      have free : body.assertsBoundary = false := inside
      exact behind.unfold_repeated free listed
    | numbered index body =>
      obtain rfl := List.mem_singleton.mp listed
      exact behind.cons inside

/-- At the start of a text a thread may become nothing but what it may become where there is no
text, unless it asserts a word boundary and a word starts the text. -/
theorem ways_of_nothing (listed : way ∈ ways ⟨none, text⟩ thread)
    (plain : thread.IsPlain ∨ text.head?.any Unicode.isWord = false) :
    way ∈ ways ⟨none, []⟩ thread := by
  match thread with
  | [] => exact listed
  | .again place greedy body :: later => exact listed
  | .part place pattern :: later =>
    cases pattern with
    | assertion condition =>
      have inside : condition ≠ .wordBoundary ∨ text.head?.any Unicode.isWord = false :=
        plain.imp_left fun plain => beq_eq_false_iff_ne.mp (plain _ List.mem_cons_self)
      simp only [ways, unfold] at listed ⊢
      split at listed
      · rename_i holds
        rw [if_pos (Assertion.holds_of_nothing holds inside)]
        exact listed
      · contradiction
    | repeated minimum maximum greedy body =>
      rw [ways, unfold_repeated_eq _ ⟨none, text⟩]
      exact listed
    | _ => exact listed

/-- At the start of a text a thread leads to nothing but what it leads to where there is no text,
unless it asserts a word boundary and a word starts the text. -/
theorem becomes_of_nothing
    (leads : ReflTransGen (Becomes ⟨none, text⟩) thread found)
    (plain : thread.IsPlain ∨ text.head?.any Unicode.isWord = false) :
    ReflTransGen (Becomes ⟨none, []⟩) thread found := by
  induction leads using ReflTransGen.head_induction_on with
  | refl => exact .refl
  | head becomes _ ih =>
    exact .head (ways_of_nothing becomes plain)
      (ih (plain.imp_left fun plain => plain.ways becomes))

/-- The best match ends where the threads reached stand, if one of them has nothing left, or is the
one found before. -/
theorem record_cases {taken length : Nat} {best : Option Nat} {reached : List Thread}
    (found : record taken best reached = some length) :
    (length = taken ∧ [] ∈ reached) ∨ best = some length := by
  unfold record at found
  split at found
  · rename_i ended
    obtain ⟨last, member, empty⟩ := List.any_eq_true.mp ended
    rw [List.isEmpty_iff.mp empty] at member
    exact .inl ⟨(Option.some.inj found).symm, member⟩
  · exact .inr found

/-- The best match ends no earlier than the threads reached stand, or is the one found before. -/
theorem le_of_record {taken length : Nat} {best : Option Nat} {reached : List Thread}
    (found : record taken best reached = some length) : taken ≤ length ∨ best = some length :=
  (record_cases found).imp_left fun ended => ended.1.ge

/-- A match found by threads ends behind what they have taken, or is the one found before. -/
theorem le_of_race {depth taken length : Nat} {best : Option Nat} {threads : List Thread}
    {previous : Option Char} (found : race depth taken best threads previous text = some length) :
    taken ≤ length ∨ best = some length := by
  induction text generalizing taken best threads previous with
  | nil => exact le_of_record found
  | cons c later ih =>
    unfold race at found
    simp only at found
    split at found
    · exact le_of_record found
    · rcases ih found with further | earlier
      · exact .inl (Nat.le_of_succ_le further)
      · exact le_of_record earlier

end Thread

namespace Pattern

variable {pattern : Pattern} {text : List Char}

/-- A pattern matches at the start of a text without taking a character only if its thread spreads
there to one that has nothing left to match. -/
theorem mem_spread_of_matchLength (matched : pattern.matchLength text = some 0) :
    [] ∈ Thread.spread ⟨none, text⟩ (pattern.size + 1) [.start pattern] := by
  have recorded {reached : List Thread} (found : Thread.record 0 none reached = some 0) :
      [] ∈ reached :=
    ((Thread.record_cases found).resolve_right nofun).2
  unfold matchLength at matched
  cases text with
  | nil => exact recorded matched
  | cons c later =>
    unfold Thread.race at matched
    simp only at matched
    split at matched
    · exact recorded matched
    · exact recorded ((Thread.le_of_race matched).resolve_left (Nat.not_succ_le_zero 0))

/-- A pattern that takes nothing at the start of a text matches where there is no text, unless it
asserts a word boundary and a word starts the text. -/
theorem IsCounted.isSome_matchLength (counted : pattern.IsCounted)
    (matched : pattern.matchLength text = some 0)
    (plain : pattern.assertsBoundary = false ∨ text.head?.any Unicode.isWord = false) :
    (pattern.matchLength []).isSome = true := by
  have leads := counted.mem_spread_iff.mp (mem_spread_of_matchLength matched)
  have start : Thread.IsPlain (.start pattern) ∨ text.head?.any Unicode.isWord = false :=
    plain.imp_left fun plain => List.forall_mem_singleton.mpr plain
  have there := counted.mem_spread_iff.mpr (Thread.becomes_of_nothing leads start)
  have found : List.any (Thread.spread ⟨none, []⟩ (pattern.size + 1) [.start pattern])
      List.isEmpty = true := List.any_eq_true.mpr ⟨[], there, rfl⟩
  unfold matchLength Thread.race Thread.record
  rw [if_pos found]
  rfl

end Pattern

/-! ## Terminals -/

namespace Terminal

/-- Whether the pattern of a terminal, if it has one, was read from its text. -/
def isCompiled : Terminal → Bool
  | regex _ compiled => Regex.compile? compiled.text = some compiled
  | _ => true

/-- Whether a terminal asserts somewhere that a word starts or ends. -/
def assertsBoundary : Terminal → Bool
  | regex _ compiled => compiled.pattern.assertsBoundary
  | _ => false

/-- The pattern of a terminal that was read from its text is counted. -/
theorem isCounted_of_isCompiled {written : String} {compiled : Regex}
    (isCompiled : (regex written compiled).isCompiled = true) : compiled.pattern.IsCounted := by
  obtain ⟨pattern, parsed, same⟩ := Option.map_eq_some_iff.mp (of_decide_eq_true isCompiled)
  obtain rfl := congrArg Regex.pattern same
  exact Pattern.isCounted_of_parse parsed

/-- A terminal that matches somewhere without taking a character is held to be able to, whatever its
kind, unless it asserts a word boundary and the cursor stands before a character of a word. -/
theorem canBeEmpty_of_scan (terminal : Terminal) (isCompiled : terminal.isCompiled = true)
    (here next : Scanner) (scanned : terminal.scan here = some next)
    (still : next.position = here.position)
    (plain : terminal.assertsBoundary = false ∨ here.peek.any Unicode.isWord = false) :
    terminal.canBeEmpty = true := by
  cases terminal with
  | regex written compiled =>
    rw [Terminal.scan, Scanner.scanRegex_eq] at scanned
    obtain ⟨count, matched, rfl⟩ := Option.map_eq_some_iff.mp scanned
    cases count with
    | zero =>
      refine (isCounted_of_isCompiled isCompiled).isSome_matchLength matched ?_
      rwa [Scanner.remaining, Source.after, List.head?_drop]
    | succ count =>
      rw [Scanner.remaining_of_advance (Nat.succ_pos count) still] at matched
      exact Option.isSome_iff_exists.mpr ⟨_, matched⟩
  | _ => exact (scan_onward (by trivial) here next scanned).2 still

/-- Before a mark, a pattern that asserts a word boundary or takes marks can be empty because it
takes nothing. -/
theorem canBeEmpty_of_scan_marks :
    ∃ terminal, ofPattern "\\b|\\B-*?" = .ok terminal ∧ terminal.assertsBoundary = true ∧
      terminal.scan (.start ⟨['-', 'a']⟩) = some (.start ⟨['-', 'a']⟩) ∧
      terminal.canBeEmpty = true := by
  have checked : (match ofPattern "\\b|\\B-*?" with
      | .ok terminal =>
        terminal.isCompiled && terminal.assertsBoundary &&
          decide (terminal.scan (.start ⟨['-', 'a']⟩) = some (.start ⟨['-', 'a']⟩))
      | .error _ => false) = true := by
    decide +kernel
  split at checked
  · rename_i terminal found
    simp only [Bool.and_eq_true, decide_eq_true_eq] at checked
    obtain ⟨⟨isCompiled, asserts⟩, scanned⟩ := checked
    exact ⟨terminal, found, asserts, scanned, canBeEmpty_of_scan terminal isCompiled _ _ scanned rfl
      (.inr (by decide +kernel))⟩
  · exact absurd checked Bool.false_ne_true

end Terminal

/-- A definition that goes on behind a terminal. -/
def Draft.behind (terminal : Terminal) : Draft where
  definitions := [("rest", .sequence [.terminal terminal, .reference "rest"])]
  root := some (.sequence [.literal "x", .reference "rest"])

/-- A word boundary matches before a letter without taking it, and is not held to be able to: a
definition that reaches itself behind it is accepted, and matching it never ends. -/
theorem Terminal.boundary_not_canBeEmpty :
    ∃ terminal, ofPattern "\\b" = .ok terminal ∧
      terminal.scan (.start ⟨['a']⟩) = some (.start ⟨['a']⟩) ∧ terminal.canBeEmpty = false ∧
      ∃ grammar, (Draft.behind terminal).build = .ok grammar ∧
        (matchRule grammar grammar.root
          (.initial ⟨['x', 'a']⟩ .default NodeStack.initial)).1 = .failed .divergence := by
  have checked : (match ofPattern "\\b" with
      | .ok terminal =>
        decide (terminal.scan (.start ⟨['a']⟩) = some (.start ⟨['a']⟩)) &&
          !terminal.canBeEmpty &&
          (match (Draft.behind terminal).build with
            | .ok grammar => decide ((matchRule grammar grammar.root
                (.initial ⟨['x', 'a']⟩ .default NodeStack.initial)).1 = .failed .divergence)
            | .error _ => false)
      | .error _ => false) = true := by
    decide +kernel
  split at checked
  · rename_i terminal found
    simp only [Bool.and_eq_true, Bool.not_eq_true', decide_eq_true_eq] at checked
    obtain ⟨⟨scanned, unheld⟩, accepted⟩ := checked
    split at accepted
    · rename_i grammar built
      exact ⟨terminal, found, scanned, unheld, grammar, built, of_decide_eq_true accepted⟩
    · exact absurd accepted Bool.false_ne_true
  · exact absurd checked Bool.false_ne_true

end Packrat
