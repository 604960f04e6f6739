import Mathlib
import Packrat.Pattern.Matching

/-!
# Threads spread as far as they lead

A thread spreads to the threads that it may become without taking a character. The search for them
follows every thread once and only to a bounded depth; it finds nothing that the thread does not
lead to (`Thread.becomes_of_mem_spread`). The threads of a pattern lead only to each other, and
there are not more of them than parts of the pattern, if no repetition asks for more rounds than it
allows (`Pattern.IsCounted.bounds`). So the depth is never used up, and the search finds everything
(`Pattern.IsCounted.mem_spread_iff`).
-/

namespace Packrat

open Relation (ReflTransGen)

namespace Thread

variable {cursor : Cursor} {depth : Nat} {reached : List Thread} {thread found : Thread}

/-- A thread may become another at a cursor without taking a character. -/
def Becomes (cursor : Cursor) (thread way : Thread) : Prop :=
  way ∈ ways cursor thread

/-! ## What is found is led to -/

/-- A search that finds what single threads lead to finds what some threads lead to. -/
theorem becomes_of_mem_foldl {search : List Thread → Thread → List Thread}
    (step : ∀ reached thread, ∀ found ∈ search reached thread,
      found ∈ reached ∨ ReflTransGen (Becomes cursor) thread found)
    (threads : List Thread) (member : found ∈ threads.foldl search reached) :
    found ∈ reached ∨ ∃ thread ∈ threads, ReflTransGen (Becomes cursor) thread found := by
  induction threads generalizing reached with
  | nil => exact .inl member
  | cons first later ih =>
    rcases ih member with earlier | ⟨thread, listed, leads⟩
    · rcases step reached first found earlier with old | leads
      · exact .inl old
      · exact .inr ⟨first, List.mem_cons_self, leads⟩
    · exact .inr ⟨thread, List.mem_cons_of_mem _ listed, leads⟩

/-- What is found from a thread was found before, or the thread leads to it. -/
theorem becomes_of_mem_visit (member : found ∈ visit cursor depth reached thread) :
    found ∈ reached ∨ ReflTransGen (Becomes cursor) thread found := by
  induction depth generalizing reached thread found with
  | zero => exact .inl member
  | succ depth ih =>
    unfold visit at member
    split at member
    · exact .inl member
    · rcases becomes_of_mem_foldl (fun _ _ _ => ih) _ member with earlier | ⟨way, listed, leads⟩
      · rcases List.mem_cons.mp earlier with rfl | old
        · exact .inr .refl
        · exact .inl old
      · exact .inr (.head listed leads)

/-- What a thread spreads to it leads to. -/
theorem becomes_of_mem_spread (member : found ∈ spread cursor depth [thread]) :
    ReflTransGen (Becomes cursor) thread found :=
  (becomes_of_mem_visit (List.mem_reverse.mp member)).resolve_left List.not_mem_nil

/-! ## What is led to is found -/

/-- Threads were found after others: those are kept, and whatever a new one may become is there. -/
structure Explores (cursor : Cursor) (before after : List Thread) : Prop where
  /-- What was found stays found. -/
  kept : ∀ thread ∈ before, thread ∈ after
  /-- What a new thread may become is found. -/
  closed : ∀ thread ∈ after, thread ∉ before → ∀ way ∈ ways cursor thread, way ∈ after

/-- Nothing new was found. -/
theorem Explores.refl (cursor : Cursor) (reached : List Thread) :
    Explores cursor reached reached :=
  ⟨fun _ => id, fun _ member new => absurd member new⟩

/-- Threads found in two goes were found one after the other. -/
theorem Explores.trans {before middle after : List Thread} (earlier : Explores cursor before middle)
    (later : Explores cursor middle after) : Explores cursor before after := by
  refine ⟨fun thread old => later.kept thread (earlier.kept thread old),
    fun thread member new way listed => ?_⟩
  by_cases inMiddle : thread ∈ middle
  · exact later.kept way (earlier.closed thread inMiddle new way listed)
  · exact later.closed thread member inMiddle way listed

/-- How many of some threads have not been found. -/
def unfound (threads : Finset Thread) (reached : List Thread) : Nat :=
  (threads \ reached.toFinset).card

variable {threads : Finset Thread}

/-- Where more was found, no more is left to be found. -/
theorem Explores.unfound_le {before after : List Thread} (explores : Explores cursor before after)
    (threads : Finset Thread) : unfound threads after ≤ unfound threads before :=
  Finset.card_le_card <| Finset.sdiff_subset_sdiff subset_rfl fun thread old =>
    List.mem_toFinset.mpr (explores.kept thread (List.mem_toFinset.mp old))

/-- A thread that was not found before is one less to be found. -/
theorem unfound_cons_lt (inside : thread ∈ threads) (new : thread ∉ reached) :
    unfound threads (thread :: reached) < unfound threads reached := by
  have left : thread ∈ threads \ reached.toFinset := by simp [inside, new]
  have fewer := Finset.card_erase_lt_of_mem left
  rwa [← Finset.sdiff_insert, ← List.toFinset_cons] at fewer

/-- A search that finds what single threads may become finds what some threads may become. -/
theorem explores_foldl {search : List Thread → Thread → List Thread}
    (step : ∀ reached, ∀ thread ∈ threads, unfound threads reached ≤ depth →
      Explores cursor reached (search reached thread) ∧ thread ∈ search reached thread)
    {starts : List Thread} (inside : ∀ thread ∈ starts, thread ∈ threads)
    (few : unfound threads reached ≤ depth) :
    Explores cursor reached (starts.foldl search reached) ∧
      ∀ thread ∈ starts, thread ∈ starts.foldl search reached := by
  induction starts generalizing reached with
  | nil => exact ⟨.refl cursor reached, nofun⟩
  | cons first later ih =>
    obtain ⟨explores, there⟩ := step reached first (inside first List.mem_cons_self) few
    obtain ⟨further, others⟩ :=
      ih (fun thread listed => inside thread (List.mem_cons_of_mem _ listed))
        ((explores.unfound_le threads).trans few)
    refine ⟨explores.trans further, fun thread listed => ?_⟩
    rcases List.mem_cons.mp listed with rfl | listed
    · exact further.kept thread there
    · exact others thread listed

/-- Among threads that lead only to each other, the search from one of them does not end before it
has followed every thread that it finds, if it may go as deep as there are threads left to find. -/
theorem explores_visit (closed : ∀ thread ∈ threads, ∀ way ∈ ways cursor thread, way ∈ threads)
    (inside : thread ∈ threads) (few : unfound threads reached ≤ depth) :
    Explores cursor reached (visit cursor depth reached thread) ∧
      thread ∈ visit cursor depth reached thread := by
  induction depth generalizing reached thread with
  | zero =>
    have none := Finset.card_eq_zero.mp (Nat.le_zero.mp few)
    have there := List.mem_toFinset.mp (Finset.sdiff_eq_empty_iff_subset.mp none inside)
    exact ⟨.refl cursor reached, there⟩
  | succ depth ih =>
    unfold visit
    split
    · rename_i old
      exact ⟨.refl cursor reached, old⟩
    · rename_i new
      have fewer : unfound threads (thread :: reached) ≤ depth :=
        Nat.le_of_lt_succ ((unfound_cons_lt inside new).trans_le few)
      obtain ⟨explores, ahead⟩ :=
        explores_foldl (fun _ _ member => ih member) (closed thread inside) fewer
      refine ⟨⟨fun other old => explores.kept other (List.mem_cons_of_mem _ old), ?_⟩,
        explores.kept thread List.mem_cons_self⟩
      intro other member fresh
      by_cases same : other = thread
      · rw [same]
        exact ahead
      · exact explores.closed other member (List.not_mem_cons_of_ne_of_not_mem same fresh)

/-- Among threads that lead only to each other, a thread spreads to all that it leads to. -/
theorem mem_spread (closed : ∀ thread ∈ threads, ∀ way ∈ ways cursor thread, way ∈ threads)
    (inside : thread ∈ threads) (few : threads.card ≤ depth)
    (leads : ReflTransGen (Becomes cursor) thread found) :
    found ∈ spread cursor depth [thread] := by
  have enough : unfound threads [] ≤ depth :=
    (Finset.card_le_card Finset.sdiff_subset).trans few
  obtain ⟨explores, there⟩ := explores_visit closed inside enough
  refine List.mem_reverse.mpr ?_
  induction leads with
  | refl => exact there
  | tail _ becomes ih => exact explores.closed _ ih List.not_mem_nil _ becomes

/-! ## The threads of a pattern -/

/-- Threads that lead only to each other and to one that is left behind them. -/
def Encloses (threads : Finset Thread) (later : Thread) : Prop :=
  ∀ thread ∈ threads, ∀ cursor, ∀ way ∈ ways cursor thread, way ∈ threads ∨ way = later

variable {first later middle : Thread} {others : Finset Thread}

/-- Threads and others that lead to the same thread lead only to each other and to that one. -/
theorem Encloses.union (encloses : Encloses threads later) (also : Encloses others later) :
    Encloses (threads ∪ others) later := by
  intro thread member cursor way listed
  rcases Finset.mem_union.mp member with inside | inside
  · exact (encloses thread inside cursor way listed).imp_left (Finset.mem_union_left _)
  · exact (also thread inside cursor way listed).imp_left (Finset.mem_union_right _)

/-- Threads that lead to one of some others, and these, lead to where the others do. -/
theorem Encloses.append (encloses : Encloses threads middle) (inside : middle ∈ others)
    (also : Encloses others later) : Encloses (threads ∪ others) later := by
  intro thread member cursor way listed
  rcases Finset.mem_union.mp member with earlier | there
  · rcases encloses thread earlier cursor way listed with within | rfl
    · exact .inl (Finset.mem_union_left _ within)
    · exact .inl (Finset.mem_union_right _ inside)
  · exact (also thread there cursor way listed).imp_left (Finset.mem_union_right _)

/-- One more thread that leads only to the others and behind them. -/
theorem Encloses.insert (encloses : Encloses threads later)
    (leads : ∀ cursor, ∀ way ∈ ways cursor first, way ∈ threads ∨ way = later) :
    Encloses (insert first threads) later := by
  intro thread member cursor way listed
  refine Or.imp_left Finset.mem_insert_of_mem ?_
  rcases Finset.mem_insert.mp member with rfl | inside
  · exact leads cursor way listed
  · exact encloses thread inside cursor way listed

/-- The ways on from a repetition are another round and the way out. -/
theorem mem_fork {greedy : Bool} {round out way : Thread} :
    way ∈ fork greedy round out ↔ way = round ∨ way = out := by
  cases greedy with
  | false => simp [fork, or_comm]
  | true => simp [fork]

end Thread

namespace Pattern

/-- Whether no repetition in a pattern asks for more rounds than it allows. -/
def IsCounted : Pattern → Prop
  | sequence first second => first.IsCounted ∧ second.IsCounted
  | alternative first second => first.IsCounted ∧ second.IsCounted
  | repeated minimum maximum _ body => (∀ most ∈ maximum, minimum ≤ most) ∧ body.IsCounted
  | numbered _ body => body.IsCounted
  | _ => True

open Thread (Encloses ways)

/-- The threads of a pattern at whatever place, before whatever is left: they lead only to each
other and to what is left, and there are at most a given number of them. -/
def Bounds (pattern : Pattern) (most : Nat) : Prop :=
  ∀ (place : Nat) (later : Thread), ∃ threads : Finset Thread,
    .part place pattern :: later ∈ threads ∧ Encloses threads later ∧ threads.card ≤ most

/-- A pattern that leads at once to what is left, if anywhere, has one thread. -/
theorem bounds_one {pattern : Pattern}
    (leads : ∀ cursor place later,
      ∀ way ∈ ways cursor (.part place pattern :: later), way = later) :
    pattern.Bounds 1 := by
  intro place later
  refine ⟨{.part place pattern :: later}, Finset.mem_singleton_self _, ?_, le_rfl⟩
  intro thread member cursor way listed
  rw [Finset.mem_singleton.mp member] at listed
  exact .inr (leads cursor place later way listed)

/-- The rounds of a repetition with an upper bound have as many threads as its body written out that
often. -/
theorem bounds_rounds {body : Pattern} {size : Nat} (bounds : body.Bounds size) (greedy : Bool)
    {minimum maximum : Nat} (counted : minimum ≤ maximum) :
    (repeated minimum (some maximum) greedy body).Bounds (maximum * (size + 1) + 1) := by
  induction maximum generalizing minimum with
  | zero =>
    obtain rfl : minimum = 0 := Nat.le_zero.mp counted
    rw [Nat.zero_mul]
    exact bounds_one fun cursor place later way listed => List.mem_singleton.mp listed
  | succ maximum ih =>
    intro place later
    obtain ⟨rounds, starts, roundsEnclosed, fewRounds⟩ :=
      ih (show minimum - 1 ≤ maximum by omega) place later
    obtain ⟨round, enters, roundEnclosed, smallRound⟩ := bounds (place + 1)
      (.part place (repeated (minimum - 1) (some maximum) greedy body) :: later)
    refine ⟨insert _ (round ∪ rounds), Finset.mem_insert_self _ _,
      (roundEnclosed.append starts roundsEnclosed).insert fun cursor way listed => ?_, ?_⟩
    · have entered := Finset.mem_union_left rounds enters
      cases minimum with
      | zero =>
        rcases Thread.mem_fork.mp listed with rfl | rfl
        · exact .inl entered
        · exact .inr rfl
      | succ minimum =>
        obtain rfl : way = .part (place + 1) body :: _ := by
          simpa only [ways, Thread.unfold, List.mem_singleton] using listed
        exact .inl entered
    · have united := Finset.card_union_le round rounds
      have added := Finset.card_insert_le
        (.part place (repeated minimum (some (maximum + 1)) greedy body) :: later) (round ∪ rounds)
      have written : (maximum + 1) * (size + 1) + 1 = maximum * (size + 1) + 1 + size + 1 := by ring
      omega

/-- The rounds of a repetition that goes on, with its body written out once. -/
theorem exists_encloses_again {body : Pattern} {size : Nat} (bounds : body.Bounds size)
    (greedy : Bool) (place : Nat) (later : Thread) :
    ∃ threads : Finset Thread, .again place greedy body :: later ∈ threads ∧
      .part (place + 1) body :: .again place greedy body :: later ∈ threads ∧
      Encloses threads later ∧ threads.card ≤ size + 1 := by
  obtain ⟨round, enters, enclosed, small⟩ :=
    bounds (place + 1) (.again place greedy body :: later)
  refine ⟨insert (.again place greedy body :: later) round, Finset.mem_insert_self _ _,
    Finset.mem_insert_of_mem enters, ?_,
    (Finset.card_insert_le _ _).trans (Nat.succ_le_succ small)⟩
  intro thread member cursor way listed
  rcases Finset.mem_insert.mp member with rfl | inside
  · rcases Thread.mem_fork.mp listed with rfl | rfl
    · exact .inl (Finset.mem_insert_of_mem enters)
    · exact .inr rfl
  · rcases enclosed thread inside cursor way listed with within | rfl
    · exact .inl (Finset.mem_insert_of_mem within)
    · exact .inl (Finset.mem_insert_self _ _)

/-- A repetition without an upper bound has as many threads as its body written out as often as it
is asked for, and once more. -/
theorem bounds_unbounded {body : Pattern} {size : Nat} (bounds : body.Bounds size) (greedy : Bool)
    (minimum : Nat) :
    (repeated minimum none greedy body).Bounds ((minimum + 1) * (size + 1) + 1) := by
  induction minimum with
  | zero =>
    intro place later
    obtain ⟨threads, again, round, enclosed, small⟩ :=
      exists_encloses_again bounds greedy place later
    refine ⟨insert _ threads, Finset.mem_insert_self _ _,
      enclosed.insert fun cursor way listed => ?_,
      (Finset.card_insert_le _ _).trans (by omega)⟩
    simp only [ways, Thread.unfold] at listed
    split at listed
    · rcases Thread.mem_fork.mp listed with rfl | rfl
      · exact .inl round
      · exact .inr rfl
    · obtain rfl := List.mem_singleton.mp listed
      exact .inl again
  | succ minimum ih =>
    intro place later
    cases minimum with
    | zero =>
      obtain ⟨threads, again, round, enclosed, small⟩ :=
        exists_encloses_again bounds greedy place later
      refine ⟨insert _ threads, Finset.mem_insert_self _ _,
        enclosed.insert fun cursor way listed => ?_,
        (Finset.card_insert_le _ _).trans (by omega)⟩
      obtain rfl := List.mem_singleton.mp listed
      exact .inl round
    | succ minimum =>
      obtain ⟨rounds, starts, roundsEnclosed, fewRounds⟩ := ih place later
      obtain ⟨round, enters, roundEnclosed, smallRound⟩ := bounds (place + 1)
        (.part place (repeated (minimum + 1) none greedy body) :: later)
      refine ⟨insert _ (round ∪ rounds), Finset.mem_insert_self _ _,
        (roundEnclosed.append starts roundsEnclosed).insert fun cursor way listed => ?_, ?_⟩
      · obtain rfl := List.mem_singleton.mp listed
        exact .inl (Finset.mem_union_left _ enters)
      · have united := Finset.card_union_le round rounds
        have added := Finset.card_insert_le
          (.part place (repeated (minimum + 1 + 1) none greedy body) :: later) (round ∪ rounds)
        have written : (minimum + 1 + 1 + 1) * (size + 1) + 1 =
            (minimum + 1 + 1) * (size + 1) + 1 + size + 1 := by ring
        omega

/-- A pattern in which no repetition asks for more than it allows has at most as many threads as
parts. -/
theorem IsCounted.bounds {pattern : Pattern} (counted : pattern.IsCounted) :
    pattern.Bounds pattern.size := by
  induction pattern with
  | empty => exact bounds_one fun _ _ _ _ listed => List.mem_singleton.mp listed
  | one cls => exact bounds_one fun _ _ _ _ listed => absurd listed List.not_mem_nil
  | assertion condition =>
    refine bounds_one fun cursor place later way listed => ?_
    simp only [ways, Thread.unfold] at listed
    split at listed
    · exact List.mem_singleton.mp listed
    · contradiction
  | sequence first second firstBounds secondBounds =>
    intro place later
    obtain ⟨behind, enters, behindEnclosed, few⟩ :=
      secondBounds counted.2 (place + 1 + first.nodes) later
    obtain ⟨front, starts, frontEnclosed, small⟩ :=
      firstBounds counted.1 (place + 1) (.part (place + 1 + first.nodes) second :: later)
    refine ⟨insert _ (front ∪ behind), Finset.mem_insert_self _ _,
      (frontEnclosed.append enters behindEnclosed).insert fun cursor way listed => ?_, ?_⟩
    · obtain rfl := List.mem_singleton.mp listed
      exact .inl (Finset.mem_union_left _ starts)
    · have united := Finset.card_union_le front behind
      have added := Finset.card_insert_le (.part place (sequence first second) :: later)
        (front ∪ behind)
      rw [size]
      omega
  | alternative first second firstBounds secondBounds =>
    intro place later
    obtain ⟨one, starts, oneEnclosed, few⟩ := firstBounds counted.1 (place + 1) later
    obtain ⟨other, enters, otherEnclosed, small⟩ :=
      secondBounds counted.2 (place + 1 + first.nodes) later
    refine ⟨insert _ (one ∪ other), Finset.mem_insert_self _ _,
      (oneEnclosed.union otherEnclosed).insert fun cursor way listed => ?_, ?_⟩
    · rcases List.mem_pair.mp listed with rfl | rfl
      · exact .inl (Finset.mem_union_left _ starts)
      · exact .inl (Finset.mem_union_right _ enters)
    · have united := Finset.card_union_le one other
      have added := Finset.card_insert_le (.part place (alternative first second) :: later)
        (one ∪ other)
      rw [size]
      omega
  | repeated minimum maximum greedy body bodyBounds =>
    intro place later
    cases maximum with
    | some maximum =>
      obtain ⟨threads, starts, enclosed, few⟩ :=
        bounds_rounds (bodyBounds counted.2) greedy (counted.1 maximum rfl) place later
      refine ⟨threads, starts, enclosed, few.trans ?_⟩
      rw [size, Option.getD_some, Nat.succ_mul]
      omega
    | none =>
      obtain ⟨threads, starts, enclosed, few⟩ :=
        bounds_unbounded (bodyBounds counted.2) greedy minimum place later
      refine ⟨threads, starts, enclosed, few.trans ?_⟩
      rw [size, Option.getD_none, Nat.succ_mul (minimum + 1)]
      omega
  | numbered index body bodyBounds =>
    intro place later
    obtain ⟨threads, starts, enclosed, few⟩ := bodyBounds counted (place + 1) later
    refine ⟨insert _ threads, Finset.mem_insert_self _ _,
      enclosed.insert fun cursor way listed => ?_,
      (Finset.card_insert_le _ _).trans (Nat.succ_le_succ few)⟩
    obtain rfl := List.mem_singleton.mp listed
    exact .inl starts

/-- The thread of a pattern spreads to exactly the threads that it leads to. -/
theorem IsCounted.mem_spread_iff {pattern : Pattern} (counted : pattern.IsCounted) {cursor : Cursor}
    {found : Thread} :
    found ∈ Thread.spread cursor (pattern.size + 1) [.start pattern] ↔
      ReflTransGen (Thread.Becomes cursor) (.start pattern) found := by
  refine ⟨Thread.becomes_of_mem_spread, ?_⟩
  obtain ⟨threads, starts, enclosed, few⟩ := counted.bounds 0 []
  refine Thread.mem_spread (fun thread member way listed => ?_)
    (Finset.mem_insert_of_mem starts)
    ((Finset.card_insert_le [] threads).trans (Nat.succ_le_succ few))
  rcases Finset.mem_insert.mp member with rfl | inside
  · contradiction
  · rcases enclosed thread inside cursor way listed with within | rfl
    · exact Finset.mem_insert_of_mem within
    · exact Finset.mem_insert_self _ _

end Pattern

end Packrat
