import Mathlib.Data.List.Basic
import Packrat.Pattern.Matching

/-!
# Reading a pattern character by character

Where no two threads ever take the same character, matching a pattern is reading: the text leads
from state to state, and a state is one thread. A reader of a pattern gives its states, the classes
of characters that lead from each to others, and which of them are final (`Reader`). The match of
the pattern then is the text read up to the last final state before the reader is stuck. A language
that satisfies the equations of the reader (`Reader.Speaks`) has what a match takes
(`Reader.Speaks.exists_of_matchLength`), and a text of it is the match where the reader is stuck
after it (`Reader.Speaks.matchLength_eq`).
-/

namespace Packrat

namespace Thread

/-- The class of characters that a thread takes one of at once, with what is left after it. -/
def offer : Thread → Option (CharClass × Thread)
  | .part _ (.one cls) :: later => some (cls, later)
  | _ => none

/-- What the threads reached at a place offer, as far as they are preferred to one that has found a
match. -/
def offers (reached : List Thread) : List (CharClass × Thread) :=
  (reached.takeWhile (!·.isEmpty)).filterMap offer

/-- A thread goes on after a character if the class that it offers has it. -/
theorem take_eq (c : Char) (thread : Thread) :
    thread.take c = thread.offer.bind fun way => if way.1.accepts c then some way.2 else none := by
  match thread with
  | [] => rfl
  | .again _ _ _ :: _ => rfl
  | .part _ pattern :: _ => cases pattern <;> rfl

/-- The threads that go on after a character are those whose offers have it. -/
theorem advance_eq (c : Char) (reached : List Thread) :
    advance c reached =
      (offers reached).filterMap fun way => if way.1.accepts c then some way.2 else none := by
  unfold advance offers
  rw [List.filterMap_filterMap]
  exact List.filterMap_congr fun thread _ => take_eq c thread

end Thread

/-- No character is in both classes. -/
def CharClass.Apart (left right : CharClass) : Prop :=
  ∀ c, left.accepts c = true → right.accepts c = false

/-- A way of reading a pattern: states that stand for single threads. -/
structure Reader (pattern : Pattern) where
  /-- The states after at least one character. -/
  State : Type
  /-- What is left to match in a state. -/
  thread : State → Thread
  /-- The classes that may come first, with the states that they lead to. -/
  first : List (CharClass × State)
  /-- The classes that may follow in a state, with the states that they lead to. -/
  ways : State → List (CharClass × State)
  /-- Whether what was read into a state is a match. -/
  isFinal : State → Bool
  /-- No character leads two ways from the start. -/
  first_apart : first.Pairwise fun left right => left.1.Apart right.1
  /-- No character leads two ways from a state. -/
  ways_apart : ∀ state, (ways state).Pairwise fun left right => left.1.Apart right.1
  /-- The thread of the pattern offers the first classes, and has found no match. -/
  starts : ∀ text,
    Thread.offers (Thread.spread ⟨none, text⟩ (pattern.size + 1) [.start pattern]) =
        first.map (Prod.map id thread) ∧
      (Thread.spread ⟨none, text⟩ (pattern.size + 1) [.start pattern]).any List.isEmpty = false
  /-- The thread of a state offers the classes that may follow, and has found a match if the state
  is final. -/
  goesOn : ∀ state previous text,
    Thread.offers (Thread.spread ⟨some previous, text⟩ (pattern.size + 1) [thread state]) =
        (ways state).map (Prod.map id thread) ∧
      (Thread.spread ⟨some previous, text⟩ (pattern.size + 1) [thread state]).any List.isEmpty =
        isFinal state

namespace Reader

variable {pattern : Pattern} (reader : Reader pattern)

/-- A text leads from one state to another. -/
inductive Path : reader.State → List Char → reader.State → Prop
  /-- No text leads nowhere else. -/
  | stay {state : reader.State} : Path state [] state
  /-- A character of a class that may follow leads on. -/
  | take {state next last : reader.State} {cls : CharClass} {c : Char} {text : List Char}
      (way : (cls, next) ∈ reader.ways state) (accepts : cls.accepts c = true)
      (later : Path next text last) : Path state (c :: text) last

/-- A text leads from the start to a state. -/
inductive Reads : List Char → reader.State → Prop
  /-- The first character is of a class that may come first, and the rest leads on. -/
  | mk {state last : reader.State} {cls : CharClass} {c : Char} {text : List Char}
      (way : (cls, state) ∈ reader.first) (accepts : cls.accepts c = true)
      (later : reader.Path state text last) : Reads (c :: text) last

/-- Nothing leads on from a state at the start of a text. -/
def Stuck (state : reader.State) (text : List Char) : Prop :=
  ∀ c ∈ text.head?, ∀ way ∈ reader.ways state, way.1.accepts c = false

/-- The states that a character leads to along given ways. -/
def following (c : Char) (options : List (CharClass × reader.State)) : List reader.State :=
  options.filterMap fun way => if way.1.accepts c then some way.2 else none

/-- Threads that offer what some ways do go on where these lead. -/
theorem advance_eq_following {reached : List Thread} {options : List (CharClass × reader.State)}
    (offers : Thread.offers reached = options.map (Prod.map id reader.thread)) (c : Char) :
    Thread.advance c reached = (reader.following c options).map reader.thread := by
  rw [Thread.advance_eq, offers, following, List.filterMap_map, List.map_filterMap]
  refine List.filterMap_congr fun way _ => ?_
  simp only [Function.comp_apply, Prod.map, id_eq]
  split <;> rfl

variable {reader}

/-- A character that no way accepts leads nowhere. -/
theorem following_eq_nil {options : List (CharClass × reader.State)} {c : Char}
    (rejected : ∀ way ∈ options, way.1.accepts c = false) : reader.following c options = [] := by
  refine List.filterMap_eq_nil_iff.mpr fun way member => ?_
  rw [rejected way member]
  rfl

/-- A character leads at most one way if no two ways accept it. -/
theorem following_eq_singleton {options : List (CharClass × reader.State)} {cls : CharClass}
    {next : reader.State} {c : Char}
    (apart : options.Pairwise fun left right => left.1.Apart right.1)
    (way : (cls, next) ∈ options) (accepts : cls.accepts c = true) :
    reader.following c options = [next] := by
  induction options with
  | nil => contradiction
  | cons option later ih =>
    obtain ⟨first, rest⟩ := List.pairwise_cons.mp apart
    unfold following
    rw [List.filterMap_cons]
    rcases List.mem_cons.mp way with rfl | member
    · rw [if_pos accepts]
      have none := reader.following_eq_nil fun other listed => first other listed c accepts
      exact congrArg (next :: ·) none
    · have rejected : option.1.accepts c = false := by
        cases known : option.1.accepts c with
        | false => rfl
        | true => rw [first _ member c known] at accepts; contradiction
      rw [rejected]
      exact ih rest member

/-- What a character leads to is one state along a way that accepts it, or none. -/
theorem following_cases {options : List (CharClass × reader.State)}
    (apart : options.Pairwise fun left right => left.1.Apart right.1) (c : Char) :
    reader.following c options = [] ∨
      ∃ cls next, (cls, next) ∈ options ∧ cls.accepts c = true ∧
        reader.following c options = [next] := by
  by_cases some : ∃ way ∈ options, way.1.accepts c = true
  · obtain ⟨⟨cls, next⟩, member, accepts⟩ := some
    exact .inr ⟨cls, next, member, accepts, following_eq_singleton apart member accepts⟩
  · refine .inl (following_eq_nil fun way member => ?_)
    cases known : way.1.accepts c with
    | false => rfl
    | true => exact absurd ⟨way, member, known⟩ some

/-! ## What a race finds -/

/-- What is recorded in a state. -/
theorem record_eq (state : reader.State) (previous : Char) (text : List Char) (taken : Nat)
    (best : Option Nat) :
    Thread.record taken best
        (Thread.spread ⟨some previous, text⟩ (pattern.size + 1) [reader.thread state]) =
      if reader.isFinal state then some taken else best := by
  unfold Thread.record
  rw [(reader.goesOn state previous text).2]

/-- A race from a state goes on where the next character leads. -/
theorem race_cons (state : reader.State) (taken : Nat) (best : Option Nat) (previous c : Char)
    (text : List Char) :
    Thread.race (pattern.size + 1) taken best [reader.thread state] (some previous) (c :: text) =
      match reader.following c (reader.ways state) with
      | [] => if reader.isFinal state then some taken else best
      | next :: _ =>
        Thread.race (pattern.size + 1) (taken + 1)
          (if reader.isFinal state then some taken else best) [reader.thread next] (some c)
          text := by
  have advanced := reader.advance_eq_following (reader.goesOn state previous (c :: text)).1 c
  have recorded := record_eq state previous (c :: text) taken best
  rw [Thread.race]
  simp only [advanced, recorded]
  rcases following_cases (reader.ways_apart state) c with none | ⟨cls, next, _, _, one⟩
  · rw [none]
    rfl
  · rw [one]
    rfl

/-- A race from a state finds what was best before, or a text that is read into a final state. -/
theorem exists_of_race {state : reader.State} {taken length : Nat} {best : Option Nat}
    {previous : Char} {text : List Char}
    (found : Thread.race (pattern.size + 1) taken best [reader.thread state] (some previous) text =
      some length) :
    best = some length ∨ ∃ read rest last, text = read ++ rest ∧ length = taken + read.length ∧
      reader.Path state read last ∧ reader.isFinal last = true := by
  have here : ∀ {state : reader.State} {taken : Nat} {best : Option Nat} {text : List Char},
      (if reader.isFinal state then some taken else best) = some length →
      best = some length ∨ ∃ read rest last, text = read ++ rest ∧ length = taken + read.length ∧
        reader.Path state read last ∧ reader.isFinal last = true := by
    intro state taken best text recorded
    split at recorded
    · rename_i final
      exact .inr ⟨[], text, state, rfl, (Option.some.inj recorded).symm, .stay, final⟩
    · exact .inl recorded
  induction text generalizing state taken best previous with
  | nil =>
    unfold Thread.race at found
    rw [record_eq] at found
    exact here found
  | cons c text ih =>
    rw [race_cons] at found
    rcases following_cases (reader.ways_apart state) c with none | ⟨cls, next, way, accepts, one⟩
    · rw [none] at found
      exact here found
    · rw [one] at found
      rcases ih found with recorded | ⟨read, rest, last, rfl, rfl, later, final⟩
      · exact here recorded
      · refine .inr ⟨c :: read, rest, last, rfl, ?_, .take way accepts later, final⟩
        rw [List.length_cons]
        omega

/-- A race over a text that is read into a final state where nothing follows finds that text. -/
theorem race_of_path {state last : reader.State} {read rest : List Char} {taken : Nat}
    {best : Option Nat} {previous : Char} (path : reader.Path state read last)
    (final : reader.isFinal last = true) (stuck : reader.Stuck last rest) :
    Thread.race (pattern.size + 1) taken best [reader.thread state] (some previous)
      (read ++ rest) = some (taken + read.length) := by
  induction path generalizing taken best previous with
  | stay =>
    cases rest with
    | nil =>
      rw [List.append_nil]
      unfold Thread.race
      rw [record_eq, if_pos final]
      rfl
    | cons c rest =>
      rw [List.nil_append, race_cons, following_eq_nil (stuck c rfl), if_pos final]
      rfl
  | take way accepts later ih =>
    rw [List.cons_append, race_cons, following_eq_singleton (reader.ways_apart _) way accepts,
      List.length_cons]
    exact (ih final stuck).trans (congrArg some (by omega))

/-! ## What a pattern matches -/

/-- A race from the start goes on where the first character leads. -/
theorem matchLength_cons (reader : Reader pattern) (c : Char) (text : List Char) :
    pattern.matchLength (c :: text) =
      match reader.following c reader.first with
      | [] => none
      | next :: _ =>
        Thread.race (pattern.size + 1) 1 none [reader.thread next] (some c) text := by
  obtain ⟨offers, unmatched⟩ := reader.starts (c :: text)
  have advanced := reader.advance_eq_following offers c
  have recorded : Thread.record 0 none
      (Thread.spread ⟨none, c :: text⟩ (pattern.size + 1) [.start pattern]) = none := by
    unfold Thread.record
    rw [unmatched]
    rfl
  rw [Pattern.matchLength, Thread.race]
  simp only [advanced, recorded]
  rcases following_cases reader.first_apart c with none | ⟨cls, next, _, _, one⟩
  · rw [none]
    rfl
  · rw [one]
    rfl

/-- What a match takes is read into a final state. -/
theorem exists_reads (reader : Reader pattern) {text : List Char} {length : Nat}
    (found : pattern.matchLength text = some length) :
    ∃ read rest last, text = read ++ rest ∧ length = read.length ∧ reader.Reads read last ∧
      reader.isFinal last = true := by
  cases text with
  | nil =>
    obtain ⟨_, unmatched⟩ := reader.starts []
    unfold Pattern.matchLength Thread.race Thread.record at found
    rw [unmatched] at found
    contradiction
  | cons c text =>
    rw [reader.matchLength_cons] at found
    rcases following_cases reader.first_apart c with none | ⟨cls, next, way, accepts, one⟩
    · rw [none] at found
      contradiction
    · rw [one] at found
      rcases exists_of_race found with nothing | ⟨read, rest, last, rfl, rfl, later, final⟩
      · contradiction
      · refine ⟨c :: read, rest, last, rfl, ?_, .mk way accepts later, final⟩
        rw [List.length_cons, Nat.add_comm]

/-- What is read into a final state where nothing follows is the match. -/
theorem matchLength_of_reads {read rest : List Char} {last : reader.State}
    (reads : reader.Reads read last) (final : reader.isFinal last = true)
    (stuck : reader.Stuck last rest) : pattern.matchLength (read ++ rest) = some read.length := by
  cases reads with
  | mk way accepts later =>
    rw [List.cons_append, reader.matchLength_cons,
      following_eq_singleton reader.first_apart way accepts]
    exact (race_of_path later final stuck).trans (congrArg some (Nat.add_comm _ _))

/-- Nothing is matched where the first character is of no class that may come first. -/
theorem matchLength_of_rejected (reader : Reader pattern) {text : List Char}
    (rejected : ∀ c ∈ text.head?, ∀ way ∈ reader.first, way.1.accepts c = false) :
    pattern.matchLength text = none := by
  cases text with
  | nil =>
    obtain ⟨_, unmatched⟩ := reader.starts []
    unfold Pattern.matchLength Thread.race Thread.record
    rw [unmatched]
    rfl
  | cons c text => rw [reader.matchLength_cons, following_eq_nil (rejected c rfl)]

/-! ## The language of a reader -/

/-- A language and what may follow in each state, as the ways of a reader say. -/
structure Speaks (reader : Reader pattern) (language : List Char → Prop)
    (tail : reader.State → List Char → Prop) : Prop where
  /-- The empty text is not in the language. -/
  nil : ¬language []
  /-- A text of the language starts with a character that leads to a state. -/
  cons : ∀ c text, language (c :: text) ↔
    ∃ way ∈ reader.first, way.1.accepts c = true ∧ tail way.2 text
  /-- Nothing need follow in the final states. -/
  tail_nil : ∀ state, tail state [] ↔ reader.isFinal state = true
  /-- What may follow starts with a character that leads on. -/
  tail_cons : ∀ state c text, tail state (c :: text) ↔
    ∃ way ∈ reader.ways state, way.1.accepts c = true ∧ tail way.2 text

namespace Speaks

variable {language : List Char → Prop} {tail : reader.State → List Char → Prop}

/-- What may follow in a state leads from it to a final one. -/
theorem tail_iff (speaks : reader.Speaks language tail) {state : reader.State} {text : List Char} :
    tail state text ↔ ∃ last, reader.Path state text last ∧ reader.isFinal last = true := by
  induction text generalizing state with
  | nil =>
    rw [speaks.tail_nil]
    refine ⟨fun final => ⟨state, .stay, final⟩, ?_⟩
    rintro ⟨last, path, final⟩
    cases path
    exact final
  | cons c text ih =>
    rw [speaks.tail_cons]
    constructor
    · rintro ⟨⟨cls, next⟩, way, accepts, spoken⟩
      obtain ⟨last, path, final⟩ := ih.mp spoken
      exact ⟨last, .take way accepts path, final⟩
    · rintro ⟨last, path, final⟩
      cases path with
      | take way accepts later => exact ⟨_, way, accepts, ih.mpr ⟨last, later, final⟩⟩

/-- The texts of the language are those that are read into a final state. -/
theorem iff_reads (speaks : reader.Speaks language tail) {text : List Char} :
    language text ↔ ∃ last, reader.Reads text last ∧ reader.isFinal last = true := by
  cases text with
  | nil =>
    refine iff_of_false speaks.nil ?_
    rintro ⟨last, reads, _⟩
    cases reads
  | cons c text =>
    rw [speaks.cons]
    constructor
    · rintro ⟨⟨cls, state⟩, way, accepts, spoken⟩
      obtain ⟨last, path, final⟩ := speaks.tail_iff.mp spoken
      exact ⟨last, .mk way accepts path, final⟩
    · rintro ⟨last, reads, final⟩
      cases reads with
      | mk way accepts later => exact ⟨_, way, accepts, speaks.tail_iff.mpr ⟨last, later, final⟩⟩

/-- What a match takes is in the language. -/
theorem exists_of_matchLength (speaks : reader.Speaks language tail) {text : List Char}
    {length : Nat} (found : pattern.matchLength text = some length) :
    ∃ read rest, text = read ++ rest ∧ length = read.length ∧ language read := by
  obtain ⟨read, rest, last, split, counted, reads, final⟩ := reader.exists_reads found
  exact ⟨read, rest, split, counted, speaks.iff_reads.mpr ⟨last, reads, final⟩⟩

/-- A text of the language is the match where the final states are stuck after it. -/
theorem matchLength_eq (speaks : reader.Speaks language tail) {read rest : List Char}
    (spoken : language read)
    (stuck : ∀ state, reader.isFinal state = true → reader.Stuck state rest) :
    pattern.matchLength (read ++ rest) = some read.length := by
  obtain ⟨last, reads, final⟩ := speaks.iff_reads.mp spoken
  exact matchLength_of_reads reads final (stuck last final)

end Speaks

end Reader

end Packrat
