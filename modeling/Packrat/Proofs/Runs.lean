import Packrat.Proofs.Taking

/-!
# Runs of characters

A run is made of characters of one class (`IsRun`), and single joints may stand between runs
(`IsJoined`). A rule that takes a run, and then further runs with a joint before each, takes as much
as it can: where a character of the class is ahead, the text that it takes is the longest start of
what is ahead that is made of runs, with no more joints than the rule allows
(`Effect.exists_longest_joined`, `Effect.exists_longest_joined_once`).
-/

namespace Packrat

/-- A text is the longest start of what is ahead that belongs to a language. -/
structure IsLongest (language : List Char → Prop) (text ahead : List Char) : Prop where
  /-- The text belongs to the language. -/
  spoken : language text
  /-- The text stands ahead. -/
  stands : text <+: ahead
  /-- No text of the language that stands ahead is longer. -/
  longest : ∀ other, language other → other <+: ahead → other.length ≤ text.length

/-- No character of a class is the first of what is ahead. -/
def StartsOutside (inside : Char → Bool) (ahead : List Char) : Prop :=
  ∀ c ∈ ahead.head?, inside c = false

/-- A text of characters of a class, at least one. -/
structure IsRun (inside : Char → Bool) (text : List Char) : Prop where
  /-- There is a character. -/
  filled : text ≠ []
  /-- All characters are of the class. -/
  all : ∀ c ∈ text, inside c = true

/-- Runs of characters of a class with a number of single joints between them. -/
inductive IsJoined (inside joint : Char → Bool) : Nat → List Char → Prop
  /-- A run has no joints. -/
  | run {text : List Char} (run : IsRun inside text) : IsJoined inside joint 0 text
  /-- A run, a joint and more runs have one joint more. -/
  | join {count : Nat} {text later : List Char} {c : Char} (run : IsRun inside text)
      (joins : joint c = true) (rest : IsJoined inside joint count later) :
      IsJoined inside joint (count + 1) (text ++ c :: later)

/-- A joint and a run. -/
inductive IsTail (inside joint : Char → Bool) : List Char → Prop
  /-- The joint comes first. -/
  | mk {c : Char} {text : List Char} (joins : joint c = true) (run : IsRun inside text) :
      IsTail inside joint (c :: text)

/-- A joint and a character of the class are ahead. -/
inductive Resumes (inside joint : Char → Bool) : List Char → Prop
  /-- The joint comes first. -/
  | mk {c d : Char} {later : List Char} (joins : joint c = true) (goesOn : inside d = true) :
      Resumes inside joint (c :: d :: later)

section Splitting

variable {inside joint : Char → Bool} {text run rest ahead later : List Char} {c : Char}

/-- Nothing is outside every class. -/
theorem startsOutside_nil (inside : Char → Bool) : StartsOutside inside [] :=
  nofun

/-- What starts with a character outside a class starts outside it. -/
theorem startsOutside_cons : StartsOutside inside (c :: later) ↔ inside c = false :=
  ⟨fun outside => outside c rfl, fun outside _ first => Option.some.inj first ▸ outside⟩

/-- What starts outside a class or not: with a run of the class before what starts outside it. -/
theorem exists_run (ahead : List Char) :
    StartsOutside inside ahead ∨
      ∃ run rest, ahead = run ++ rest ∧ IsRun inside run ∧ StartsOutside inside rest := by
  cases ahead with
  | nil => exact .inl (startsOutside_nil inside)
  | cons c later =>
    cases first : inside c with
    | false => exact .inl (startsOutside_cons.mpr first)
    | true =>
      refine .inr ⟨(c :: later).takeWhile inside, (c :: later).dropWhile inside,
        List.takeWhile_append_dropWhile.symm, ⟨?_, List.all_eq_true.mp List.all_takeWhile⟩, ?_⟩
      · rw [List.takeWhile_cons_of_pos first]
        exact List.cons_ne_nil _ _
      · intro d stopped
        have checked := List.head?_dropWhile_not inside (c :: later)
        rw [Option.mem_def.mp stopped] at checked
        simpa using checked

/-- A text of characters of a class that stands where a run does is no longer than the run. -/
theorem length_le_of_stands (all : ∀ c ∈ text, inside c = true)
    (stands : text <+: run ++ rest) (outside : StartsOutside inside rest) :
    text.length ≤ run.length := by
  by_contra longer
  obtain ⟨extra, rfl⟩ :=
    List.prefix_of_prefix_length_le (List.prefix_append run rest) stands (by omega)
  rw [List.prefix_append_right_inj] at stands
  cases extra with
  | nil => simp at longer
  | cons d others =>
    obtain ⟨after, rfl⟩ := stands
    have member := all d (List.mem_append_right _ List.mem_cons_self)
    exact Bool.false_ne_true ((outside d rfl).symm.trans member)

/-- A text of characters of a class and a character outside it, where a run stands: the text is the
run. -/
theorem eq_run_of_stands (all : ∀ c ∈ text, inside c = true) (other : inside c = false)
    (whole : IsRun inside run) (stands : text ++ c :: later <+: run ++ rest)
    (outside : StartsOutside inside rest) : text = run ∧ c :: later <+: rest := by
  have front : text <+: run ++ rest := (List.prefix_append _ _).trans stands
  obtain ⟨extra, rfl⟩ := List.prefix_of_prefix_length_le front (List.prefix_append run rest)
    (length_le_of_stands all front outside)
  rw [List.append_assoc, List.prefix_append_right_inj] at stands
  cases extra with
  | nil => exact ⟨(List.append_nil text).symm, stands⟩
  | cons d others =>
    obtain ⟨rfl, _⟩ := List.cons_prefix_cons.mp stands
    have member := whole.all c (List.mem_append_right _ List.mem_cons_self)
    exact absurd (other.symm.trans member) Bool.false_ne_true

end Splitting

/-! ## Runs with joints between them -/

section Joining

variable {inside joint : Char → Bool} {run rest ahead : List Char} {tails : List (List Char)}

/-- Joints that are outside the class start what starts outside it. -/
theorem startsOutside_flatten (apart : ∀ c, joint c = true → inside c = false)
    (each : ∀ tail ∈ tails, IsTail inside joint tail) (outside : StartsOutside inside rest) :
    StartsOutside inside (tails.flatten ++ rest) := by
  cases tails with
  | nil => exact outside
  | cons tail others =>
    cases each tail List.mem_cons_self with
    | mk joins _ => exact startsOutside_cons.mpr (apart _ joins)

/-- A run and tails are runs with as many joints as there are tails. -/
theorem isJoined_flatten (whole : IsRun inside run)
    (each : ∀ tail ∈ tails, IsTail inside joint tail) :
    IsJoined inside joint tails.length (run ++ tails.flatten) := by
  induction tails generalizing run with
  | nil => exact (List.append_nil run).symm ▸ .run whole
  | cons tail others ih =>
    obtain ⟨first, later⟩ := List.forall_mem_cons.mp each
    cases first with
    | mk joins next => exact .join whole joins (ih next later)

/-- Runs start with a character of the class. -/
theorem IsJoined.exists_cons {count : Nat} {text : List Char}
    (joined : IsJoined inside joint count text) :
    ∃ c later, text = c :: later ∧ inside c = true := by
  have starts : ∀ {run : List Char}, IsRun inside run →
      ∃ c later, run = c :: later ∧ inside c = true := by
    intro run whole
    obtain ⟨c, later, rfl⟩ := List.exists_cons_of_ne_nil whole.filled
    exact ⟨c, later, rfl, whole.all c List.mem_cons_self⟩
  cases joined with
  | run whole => exact starts whole
  | join whole joins _ =>
    obtain ⟨c, later, rfl, member⟩ := starts whole
    exact ⟨c, _, rfl, member⟩

/-- Runs are made of characters of the class and joints. -/
theorem IsJoined.mem {count : Nat} {text : List Char} (joined : IsJoined inside joint count text) :
    ∀ c ∈ text, inside c = true ∨ joint c = true := by
  induction joined with
  | run whole => exact fun c member => .inl (whole.all c member)
  | join whole joins _ ih =>
    intro c member
    rcases List.mem_append.mp member with first | later
    · exact .inl (whole.all c first)
    · rcases List.mem_cons.mp later with rfl | later
      · exact .inr joins
      · exact ih c later

/-- Runs that stand where a run and tails stand are no longer than these, if the tails do not go on
or there are as many as the runs have joints. -/
theorem IsJoined.length_le (apart : ∀ c, joint c = true → inside c = false) {count : Nat}
    {text : List Char} (joined : IsJoined inside joint count text) (whole : IsRun inside run)
    (each : ∀ tail ∈ tails, IsTail inside joint tail) (outside : StartsOutside inside rest)
    (stops : ¬ Resumes inside joint rest ∨ count ≤ tails.length)
    (stands : text <+: run ++ (tails.flatten ++ rest)) :
    text.length ≤ (run ++ tails.flatten).length := by
  induction joined generalizing run tails with
  | run piece =>
    have bound := length_le_of_stands piece.all stands (startsOutside_flatten apart each outside)
    rw [List.length_append]
    omega
  | @join count text later c piece joins joined ih =>
    obtain ⟨rfl, follows⟩ := eq_run_of_stands piece.all (apart _ joins) whole stands
      (startsOutside_flatten apart each outside)
    cases tails with
    | nil =>
      obtain ⟨d, others, rfl, goesOn⟩ := joined.exists_cons
      obtain ⟨after, rfl⟩ := follows
      rcases stops with stuck | few
      · exact absurd (.mk joins goesOn) stuck
      · contradiction
    | cons tail others =>
      obtain ⟨first, more⟩ := List.forall_mem_cons.mp each
      cases first with
      | mk _ next =>
        rw [List.flatten_cons, List.cons_append, List.cons_append, List.cons_prefix_cons,
          List.append_assoc] at follows
        have shorter := ih next more (stops.imp_right Nat.le_of_succ_le_succ) follows.2
        simp only [List.length_append, List.length_cons, List.flatten_cons] at shorter ⊢
        omega

/-- What starts outside the class starts with tails, at most some number of them, up to where they
do not go on or the number is reached. -/
theorem exists_tails (joint : Char → Bool) (bound : Option Nat)
    (outside : StartsOutside inside ahead) :
    ∃ (tails : List (List Char)) (rest : List Char), ahead = tails.flatten ++ rest ∧
      (∀ tail ∈ tails, IsTail inside joint tail) ∧
      StartsOutside inside rest ∧ (∀ most, bound = some most → tails.length ≤ most) ∧
      (¬ Resumes inside joint rest ∨ bound = some tails.length) := by
  induction size : ahead.length using Nat.strong_induction_on generalizing ahead bound with
  | _ size ih =>
  subst size
  by_cases full : bound = some 0
  · exact ⟨[], ahead, rfl, nofun, outside, fun _ _ => Nat.zero_le _, .inr full⟩
  by_cases resumes : Resumes inside joint ahead
  · cases resumes with
    | @mk c d later joins goesOn =>
    have next : ∃ run rest, d :: later = run ++ rest ∧ IsRun inside run ∧
        StartsOutside inside rest :=
      (exists_run (d :: later)).resolve_left fun outside =>
        Bool.false_ne_true ((startsOutside_cons.mp outside).symm.trans goesOn)
    obtain ⟨run, rest, split, whole, outside⟩ := next
    have shorter : rest.length < (c :: d :: later).length := by
      rw [split, List.length_cons, List.length_append]
      omega
    obtain ⟨tails, last, rfl, each, outside, few, stops⟩ :=
      ih rest.length shorter (bound.map (· - 1)) outside rfl
    refine ⟨(c :: run) :: tails, last, ?_, List.forall_mem_cons.mpr ⟨.mk joins whole, each⟩,
      outside, fun most bounded => ?_, stops.imp_right fun reached => ?_⟩
    · rw [split, List.flatten_cons, List.append_assoc, List.cons_append]
    · subst bounded
      have fewer := few (most - 1) rfl
      have positive : most ≠ 0 := fun zero => full (congrArg some zero)
      rw [List.length_cons]
      omega
    · obtain ⟨most, rfl, same⟩ := Option.map_eq_some_iff.mp reached
      have positive : most ≠ 0 := fun zero => full (congrArg some zero)
      rw [List.length_cons]
      exact congrArg some (by omega)
  · exact ⟨[], ahead, rfl, nofun, outside, fun _ _ => Nat.zero_le _, .inl resumes⟩

end Joining

/-! ## What rules take of runs -/

namespace Effect

variable {members : CharacterSet} {text ahead : List Char} {c : Char}

/-- A set reads one of its characters. -/
theorem reads_set (member : members.contains c = true) {before : List Char → Prop} :
    Reads (scan (.set members)) [c] before :=
  fun _ _ taken _ => scan_eq_matched.mpr ⟨Terminal.scan_set.mpr ⟨c, member, taken⟩, rfl⟩

/-- A set finds nothing where none of its characters is ahead. -/
theorem scan_set_of_outside {here : Scanner}
    (outside : StartsOutside members.contains here.remaining) :
    (Terminal.set members).scan here = none := by
  refine Option.eq_none_iff_forall_ne_some.mpr fun next found => ?_
  obtain ⟨c, member, taken⟩ := Terminal.scan_set.mp found
  rw [taken.ahead] at outside
  exact Bool.false_ne_true ((outside c rfl).symm.trans member)

/-- A set fails where none of its characters is ahead. -/
theorem fails_set (outside : StartsOutside members.contains ahead) :
    Fails (scan (.set members)) ahead :=
  fun _ stands => scan_eq_failed.mpr (scan_set_of_outside (stands ▸ outside))

/-- What takes characters of a set, at least one. -/
def run (members : CharacterSet) : Scanner → Effect :=
  repeated (scan (.set members)) .oneOrMore

/-- A run is read before what starts outside its set. -/
theorem reads_run (whole : IsRun members.contains text) :
    Reads (run members) text (StartsOutside members.contains) := by
  have each : ReadsEach (scan (.set members)) (text.map ([·])) (fun _ => True)
      (StartsOutside members.contains) := by
    refine ⟨by simp, fun one member => ?_, fun _ _ _ => trivial, fun _ _ => trivial,
      fun _ outside => fails_set outside⟩
    obtain ⟨c, listed, rfl⟩ := List.mem_map.mp member
    exact reads_set (whole.all c listed)
  have joined : (text.map ([·])).flatten = text := List.flatMap_singleton' text
  have counted : Cardinality.oneOrMore.accepts (text.map ([·])).length = true := by
    rw [List.length_map]
    exact Bool.and_eq_true_iff.mpr
      ⟨decide_eq_true (List.length_pos_iff.mpr whole.filled), rfl⟩
  have reads := each.repeated rfl counted
  rwa [joined] at reads

/-- No run is read where none of its characters is ahead. -/
theorem fails_run (outside : StartsOutside members.contains ahead) : Fails (run members) ahead :=
  fails_repeated rfl rfl (fails_set outside)

/-- A part reads single characters of a class and fails where none of them is ahead. -/
structure ReadsOne (part : Scanner → Effect) (joint : Char → Bool) : Prop where
  /-- The part reads every character of the class. -/
  reads : ∀ c, joint c = true → Reads part [c] fun _ => True
  /-- The part fails where there is none. -/
  fails : ∀ ahead, StartsOutside joint ahead → Fails part ahead

/-- A set reads single characters. -/
theorem readsOne_set (members : CharacterSet) : ReadsOne (scan (.set members)) members.contains :=
  ⟨fun _ member => reads_set member, fun _ outside => fails_set outside⟩

/-- A literal of one character reads that. -/
theorem readsOne_literal {word : String} {mark : Char} (single : word.toList = [mark]) :
    ReadsOne (scan (.literal word)) (· == mark) := by
  refine ⟨fun c same => reads_literal ?_, fun ahead outside => fails_literal mark ?_ ?_⟩
  · rw [single, eq_of_beq same]
  · rw [single, List.head?_cons]
  · exact fun first => Bool.false_ne_true ((outside mark first).symm.trans (beq_self_eq_true mark))

/-- What takes a joint and a run. -/
def tail (part : Scanner → Effect) (members : CharacterSet) : Scanner → Effect :=
  sequence [part, run members]

section Tails

variable {part : Scanner → Effect} {joint : Char → Bool} (one : ReadsOne part joint)

include one

/-- A tail is read before what starts outside the class of its run. -/
theorem reads_tail (ends : IsTail members.contains joint text) :
    Reads (tail part members) text (StartsOutside members.contains) := by
  cases ends with
  | mk joins whole => exact (one.reads _ joins).cons (reads_run whole).last fun _ _ => trivial

/-- No tail is read where runs do not go on. -/
theorem fails_tail (stuck : ¬ Resumes members.contains joint ahead) :
    Fails (tail part members) ahead := by
  cases ahead with
  | nil => exact (one.fails [] (startsOutside_nil joint)).cons
  | cons c later =>
    cases joins : joint c with
    | false => exact (one.fails _ (startsOutside_cons.mpr joins)).cons
    | true =>
      have ends : StartsOutside members.contains later := by
        cases later with
        | nil => exact startsOutside_nil _
        | cons d others =>
          refine startsOutside_cons.mpr (Bool.eq_false_iff.mpr fun goesOn => stuck ?_)
          exact .mk joins goesOn
      exact (one.reads c joins).fails trivial (fails_run ends).cons

variable (apart : ∀ c, joint c = true → members.contains c = false)

include apart

/-- Where a character of the set is ahead, a run and any number of tails take the longest start of
what is ahead that is made of runs with joints between them. -/
theorem exists_longest_joined (goesOn : ¬ StartsOutside members.contains ahead) :
    ∃ text, IsLongest (fun text => ∃ count, IsJoined members.contains joint count text) text ahead ∧
      ∀ here, here.remaining = ahead → ∃ next, here.Takes text next ∧
        sequence [run members, repeated (tail part members) .zeroOrMore] here =
          .matched next [] := by
  obtain ⟨first, later, rfl, whole, outside⟩ := (exists_run ahead).resolve_left goesOn
  obtain ⟨tails, rest, rfl, each, outside, -, stops⟩ := exists_tails joint none outside
  have stuck : ¬ Resumes members.contains joint rest := stops.resolve_right nofun
  have tailsRead : ReadsEach (tail part members) tails (StartsOutside members.contains)
      fun rest => StartsOutside members.contains rest ∧ ¬ Resumes members.contains joint rest := by
    refine ⟨fun text member => ?_, fun text member => reads_tail one (each text member),
      fun text member rest => ?_, fun _ ends => ends.1, fun _ ends => fails_tail one ends.2⟩
    · cases each text member with
      | mk _ _ => exact List.cons_ne_nil _ _
    · cases each text member with
      | mk joins _ => exact startsOutside_cons.mpr (apart _ joins)
  have several : Reads (repeated (tail part members) .zeroOrMore) tails.flatten _ :=
    tailsRead.repeated rfl (Bool.and_eq_true_iff.mpr ⟨decide_eq_true (Nat.zero_le _), rfl⟩)
  have reads := (reads_run whole).cons several.last
    fun _ ends => startsOutside_flatten apart each ends.1
  refine ⟨first ++ tails.flatten, ⟨⟨_, isJoined_flatten whole each⟩, ⟨rest, by simp⟩, ?_⟩, ?_⟩
  · rintro other ⟨count, joined⟩ stands
    exact joined.length_le apart whole each outside (.inl stuck) stands
  · intro here stands
    rw [← List.append_assoc] at stands
    have taken := Scanner.takes_advance stands
    exact ⟨_, taken, reads taken (taken.remaining_eq stands ▸ ⟨outside, stuck⟩)⟩

/-- Where a character of the set is ahead, a run and perhaps a tail take the longest start of what
is ahead that is made of runs with at most one joint between them. -/
theorem exists_longest_joined_once (goesOn : ¬ StartsOutside members.contains ahead) :
    ∃ text, IsLongest (fun text => ∃ count ≤ 1, IsJoined members.contains joint count text) text
        ahead ∧
      ∀ here, here.remaining = ahead → ∃ next, here.Takes text next ∧
        sequence [run members, perhaps (tail part members)] here = .matched next [] := by
  obtain ⟨first, later, rfl, whole, outside⟩ := (exists_run ahead).resolve_left goesOn
  obtain ⟨tails, rest, rfl, each, ends, few, stops⟩ := exists_tails joint (some 1) outside
  have tailRead : Reads (perhaps (tail part members)) tails.flatten fun after => after = rest := by
    match tails, few 1 rfl with
    | [], _ =>
      have stuck := stops.resolve_right nofun
      exact reads_perhaps_nil fun _ same => same ▸ fails_tail one stuck
    | [text], _ =>
      rw [List.flatten_singleton]
      refine (reads_tail one (each text List.mem_cons_self)).orElse.mono ?_
      exact fun _ same => same ▸ ends
  have reads := (reads_run whole).cons tailRead.last fun _ same => same ▸ outside
  refine ⟨first ++ tails.flatten, ⟨⟨_, few 1 rfl, isJoined_flatten whole each⟩, ⟨rest, by simp⟩,
    ?_⟩, ?_⟩
  · rintro other ⟨count, once, joined⟩ stands
    refine joined.length_le apart whole each ends (stops.imp_right fun reached => ?_) stands
    exact once.trans_eq (Option.some.inj reached)
  · intro here stands
    rw [← List.append_assoc] at stands
    have taken := Scanner.takes_advance stands
    exact ⟨_, taken, reads taken (taken.remaining_eq stands)⟩

end Tails

end Effect

end Packrat
