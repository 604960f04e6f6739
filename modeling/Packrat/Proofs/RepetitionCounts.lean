import Packrat.Pattern.Parser
import Packrat.Proofs.Spreading

/-!
# Repetitions in written patterns

A written repetition that asks for more rounds than it allows is refused, and nothing that is
composed of others counts differently. So no repetition in a pattern that was read from a text asks
for more than it allows (`Pattern.isCounted_of_parse`).
-/

namespace Packrat

/-! ## Lexemes -/

namespace Lexeme

/-- Whether a lexeme, if it is a repetition, asks for no more rounds than it allows. -/
def IsCounted : Lexeme → Prop
  | .repetition minimum maximum _ => ∀ most ∈ maximum, minimum ≤ most
  | _ => True

variable {lexeme : Lexeme} {text rest : List Char}

/-- Greed does not change the counts of a repetition. -/
theorem isCounted_withGreed {minimum : Nat} {maximum : Option Nat}
    (counted : ∀ most ∈ maximum, minimum ≤ most) (text : List Char) :
    (withGreed minimum maximum text).1.IsCounted := by
  unfold withGreed
  split <;> exact counted

/-- Counts in braces are refused if they are out of order. -/
theorem isCounted_of_counts (read : counts text = some (lexeme, rest)) : lexeme.IsCounted := by
  unfold counts at read
  obtain ⟨⟨minimum, behind⟩, -, read⟩ := Option.bind_eq_some_iff.mp read
  simp only at read
  split at read
  · obtain rfl := congrArg Prod.fst (Option.some.inj read)
    exact isCounted_withGreed (by simp) _
  · obtain rfl := congrArg Prod.fst (Option.some.inj read)
    exact isCounted_withGreed (by simp) _
  · obtain ⟨⟨maximum, further⟩, -, read⟩ := Option.bind_eq_some_iff.mp read
    simp only at read
    split at read
    · split at read
      · rename_i ordered
        obtain rfl := congrArg Prod.fst (Option.some.inj read)
        exact isCounted_withGreed (by simpa using ordered) _
      · contradiction
    · contradiction
  · contradiction

/-- Flags are no repetition. -/
theorem isCounted_of_flagLetters {change : FlagChange} {value dangling any : Bool}
    (read : flagLetters change value dangling any text = some (lexeme, rest)) :
    lexeme.IsCounted := by
  induction text generalizing change value dangling any with
  | nil => simp [flagLetters] at read
  | cons letter later ih =>
    unfold flagLetters at read
    split at read
    · split at read
      · contradiction
      · obtain rfl := congrArg Prod.fst (Option.some.inj read)
        exact True.intro
    · split at read
      · contradiction
      · obtain rfl := congrArg Prod.fst (Option.some.inj read)
        exact True.intro
    · rename_i same
      obtain ⟨-, rfl⟩ := List.cons.inj same
      split at read
      · exact ih read
      · contradiction
    · rename_i same
      obtain ⟨-, rfl⟩ := List.cons.inj same
      split at read
      · exact ih read
      · contradiction
    · contradiction

/-- A bracketed class is no repetition. -/
theorem isCounted_of_bracketClass (read : bracketClass text = some (lexeme, rest)) :
    lexeme.IsCounted := by
  unfold bracketClass at read
  obtain ⟨⟨members, behind⟩, -, read⟩ := Option.bind_eq_some_iff.mp read
  obtain rfl := congrArg Prod.fst (Option.some.inj read)
  exact True.intro

/-- No lexeme asks for more rounds than it allows. -/
theorem isCounted_of_next (read : next text = some (lexeme, rest)) : lexeme.IsCounted := by
  unfold next at read
  split at read
  case h_1 => contradiction
  case h_2 =>
    split at read
    case h_4 => contradiction
    all_goals
      obtain rfl := congrArg Prod.fst (Option.some.inj read)
      exact True.intro
  case h_8 => exact isCounted_of_flagLetters read
  case h_10 => exact isCounted_of_bracketClass read
  case h_11 | h_12 | h_13 =>
    obtain rfl := congrArg Prod.fst (Option.some.inj read)
    exact isCounted_withGreed (by simp) _
  case h_14 => exact isCounted_of_counts read
  all_goals
    obtain rfl := congrArg Prod.fst (Option.some.inj read)
    exact True.intro

/-- None of the lexemes of a text asks for more rounds than it allows. -/
theorem isCounted_of_all {budget : Nat} {lexemes : List Lexeme}
    (read : all budget text = some lexemes) : ∀ lexeme ∈ lexemes, lexeme.IsCounted := by
  induction budget generalizing text lexemes with
  | zero =>
    cases text with
    | nil =>
      obtain rfl : [] = lexemes := Option.some.inj read
      exact nofun
    | cons => contradiction
  | succ budget ih =>
    cases text with
    | nil =>
      obtain rfl : [] = lexemes := Option.some.inj read
      exact nofun
    | cons c later =>
      obtain ⟨⟨first, rest⟩, taken, read⟩ := Option.bind_eq_some_iff.mp read
      obtain ⟨others, further, read⟩ := Option.bind_eq_some_iff.mp read
      obtain rfl := Option.some.inj read
      exact List.forall_mem_cons.mpr ⟨isCounted_of_next taken, ih further⟩

end Lexeme

/-! ## Composed patterns -/

namespace Pattern

variable {pattern : Pattern} {patterns : List Pattern}

/-- The parts of a sequence count as the sequence does. -/
theorem IsCounted.parts (counted : pattern.IsCounted) : ∀ part ∈ pattern.parts, part.IsCounted := by
  induction pattern with
  | empty => exact nofun
  | sequence first second firstCounted secondCounted =>
    exact List.forall_mem_append.mpr ⟨firstCounted counted.1, secondCounted counted.2⟩
  | _ => exact List.forall_mem_singleton.mpr counted

/-- The sequence of some parts counts as they do. -/
theorem isCounted_ofParts (counted : ∀ part ∈ patterns, part.IsCounted) :
    (ofParts patterns).IsCounted := by
  induction patterns with
  | nil => exact True.intro
  | cons part later ih =>
    obtain ⟨first, others⟩ := List.forall_mem_cons.mp counted
    cases later with
    | nil => exact first
    | cons next rest => exact ⟨first, ih others⟩

/-- Patterns one after the other count as they do on their own. -/
theorem isCounted_inOrder (counted : ∀ pattern ∈ patterns, pattern.IsCounted) :
    (inOrder patterns).IsCounted := by
  refine isCounted_ofParts fun part member => ?_
  obtain ⟨pattern, listed, inside⟩ := List.mem_flatMap.mp member
  exact (counted pattern listed).parts part inside

/-- Patterns of which one is tried after the other count as they do on their own. -/
theorem isCounted_orElse {first : Pattern} (counted : first.IsCounted)
    (others : ∀ pattern ∈ patterns, pattern.IsCounted) : (orElse first patterns).IsCounted := by
  induction patterns generalizing first with
  | nil => exact counted
  | cons next later ih =>
    obtain ⟨second, rest⟩ := List.forall_mem_cons.mp others
    exact ⟨counted, ih second rest⟩

/-- A choice counts as the patterns chosen from. -/
theorem isCounted_choose (counted : ∀ pattern ∈ patterns, pattern.IsCounted) :
    (choose patterns).IsCounted := by
  unfold choose
  split
  · exact True.intro
  · exact True.intro
  · obtain ⟨first, others⟩ := List.forall_mem_cons.mp counted
    exact isCounted_orElse first others

/-- What two lists have in common at the front is part of the first. -/
theorem mem_of_mem_commonFront {left right : List Pattern} {part : Pattern}
    (member : part ∈ commonFront left right) : part ∈ left := by
  fun_induction commonFront left right with
  | case1 first lefts rights ih => exact List.mem_cons.mpr ((List.mem_cons.mp member).imp_right ih)
  | case2 => contradiction
  | case3 => contradiction

/-- The front that alternatives share is part of one of them. -/
theorem exists_of_mem_sharedFront {lists : List (List Pattern)} {part : Pattern}
    (member : part ∈ sharedFront lists) : ∃ parts ∈ lists, part ∈ parts := by
  unfold sharedFront at member
  split at member
  · rename_i first others
    split at member
    · refine ⟨first, List.mem_cons_self, ?_⟩
      clear * - member
      induction others generalizing first with
      | nil => exact member
      | cons next later ih => exact mem_of_mem_commonFront (ih _ member)
    · contradiction
  · contradiction

/-- Alternatives count as they do on their own, also where they share their front. -/
theorem isCounted_either (counted : ∀ pattern ∈ patterns, pattern.IsCounted) :
    (either patterns).IsCounted := by
  unfold either
  split
  · exact List.forall_mem_singleton.mp counted
  · split
    · rename_i part front _ shared
      refine isCounted_inOrder (List.forall_mem_append.mpr ⟨fun common member => ?_, ?_⟩)
      · rw [← shared] at member
        obtain ⟨parts, listed, inside⟩ := exists_of_mem_sharedFront member
        obtain ⟨pattern, among, rfl⟩ := List.mem_map.mp listed
        exact (counted pattern among).parts common inside
      · refine List.forall_mem_singleton.mpr (isCounted_choose fun ending member => ?_)
        obtain ⟨pattern, among, rfl⟩ := List.mem_map.mp member
        exact isCounted_ofParts fun part inside =>
          (counted pattern among).parts part (List.mem_of_mem_drop inside)
    · exact isCounted_choose counted

/-- A repetition asks for no more rounds than it allows if it was written so. -/
theorem isCounted_times {minimum : Nat} {maximum : Option Nat} {body : Pattern} (greedy : Bool)
    (ordered : ∀ most ∈ maximum, minimum ≤ most) (counted : body.IsCounted) :
    (times minimum maximum greedy body).IsCounted := by
  unfold times
  cases body.takesNothing with
  | false =>
    simp only [Bool.false_eq_true, ↓reduceIte]
    split
    · exact True.intro
    · exact counted
    · exact ⟨ordered, counted⟩
  | true =>
    simp only [↓reduceIte]
    have clamped : ∀ most ∈ some (min (maximum.getD 1) 1), min minimum 1 ≤ most := by
      intro most member
      obtain rfl := Option.some.inj member
      cases maximum with
      | none => exact Nat.min_le_right _ _
      | some maximum => exact min_le_min_right 1 (ordered maximum rfl)
    split
    · exact True.intro
    · exact counted
    · exact ⟨clamped, counted⟩

/-! ## Groups -/

/-- Whether no repetition in a piece asks for more rounds than it allows. -/
def Piece.IsCounted (piece : Piece) : Prop :=
  ∀ pattern ∈ piece.pattern, pattern.IsCounted

/-- Whether no repetition that was read into a group asks for more rounds than it allows. -/
structure Group.IsCounted (group : Group) : Prop where
  /-- The finished alternatives are counted. -/
  alternatives : ∀ piece ∈ group.alternatives, piece.IsCounted
  /-- The items of the current alternative are counted. -/
  items : ∀ piece ∈ group.items, piece.IsCounted

variable {group : Group} {piece : Piece}

/-- The patterns of counted pieces are counted. -/
theorem Piece.isCounted_patterns {pieces : List Piece}
    (counted : ∀ piece ∈ pieces, piece.IsCounted) :
    ∀ pattern ∈ Piece.patterns pieces, pattern.IsCounted := by
  intro pattern member
  obtain ⟨piece, listed, found⟩ := List.mem_filterMap.mp member
  exact counted piece listed pattern found

namespace Group

/-- A group in which nothing has been read is counted. -/
theorem isCounted_start (index : Option Nat) (flags : Flags) : (start index flags).IsCounted :=
  ⟨fun _ listed => absurd listed List.not_mem_nil, fun _ listed => absurd listed List.not_mem_nil⟩

/-- A change of flags keeps a group counted. -/
theorem IsCounted.change (counted : group.IsCounted) (change : FlagChange) :
    (group.change change).IsCounted :=
  ⟨counted.alternatives, List.forall_mem_cons.mpr ⟨nofun, counted.items⟩⟩

/-- Finishing an alternative keeps a group counted. -/
theorem IsCounted.next (counted : group.IsCounted) : group.next.IsCounted := by
  refine ⟨List.forall_mem_cons.mpr ⟨?_, counted.alternatives⟩, nofun⟩
  intro pattern found
  obtain rfl := Option.some.inj found
  exact isCounted_inOrder (Piece.isCounted_patterns fun piece member =>
    counted.items piece (List.mem_reverse.mp member))

/-- What has been read in a counted group is counted. -/
theorem IsCounted.content (counted : group.IsCounted) : group.content.IsCounted := by
  intro pattern found
  obtain rfl := Option.some.inj found
  exact isCounted_either (Piece.isCounted_patterns fun piece member =>
    counted.next.alternatives piece (List.mem_reverse.mp member))

/-- A counted group is counted as one piece. -/
theorem IsCounted.finish (counted : group.IsCounted) : group.finish.IsCounted := by
  intro pattern found
  unfold Group.finish at found
  simp only at found
  split at found
  · obtain ⟨inside, read, rfl⟩ := Option.map_eq_some_iff.mp found
    exact counted.content inside read
  · exact counted.content pattern found

/-- One more counted item keeps a group counted. -/
theorem IsCounted.push (counted : group.IsCounted) (item : piece.IsCounted) :
    (group.push piece).IsCounted :=
  ⟨counted.alternatives, List.forall_mem_cons.mpr ⟨item, counted.items⟩⟩

end Group

/-- A lexeme that takes a character or asserts something repeats nothing. -/
theorem Piece.isCounted_of_atom {flags : Flags} {lexeme : Lexeme}
    (read : Piece.atom flags lexeme = some piece) : piece.IsCounted := by
  have taking : ∀ cls depth, Piece.IsCounted ⟨some (.one cls), depth⟩ := by
    intro cls depth pattern found
    obtain rfl := Option.some.inj found
    exact True.intro
  have asserting : ∀ condition, (Piece.simple (.assertion condition)).IsCounted := by
    intro condition pattern found
    obtain rfl := Option.some.inj found
    exact True.intro
  cases lexeme with
  | character c =>
    obtain rfl := Option.some.inj read
    exact taking _ _
  | dot =>
    obtain rfl := Option.some.inj read
    exact taking _ _
  | shorthand cls =>
    obtain rfl := Option.some.inj read
    exact taking _ _
  | set members negated =>
    obtain rfl := Option.some.inj read
    exact taking _ _
  | caret =>
    obtain rfl := Option.some.inj read
    exact asserting _
  | dollar =>
    obtain rfl := Option.some.inj read
    exact asserting _
  | assertion condition =>
    obtain rfl := Option.some.inj read
    exact asserting _
  | _ => contradiction

/-- What is read from counted lexemes into counted groups is counted. -/
theorem isCounted_of_ofLexemes {numbered : Nat} {outer : List Group} {lexemes : List Lexeme}
    (counted : group.IsCounted) (around : ∀ group ∈ outer, group.IsCounted)
    (each : ∀ lexeme ∈ lexemes, lexeme.IsCounted)
    (read : ofLexemes numbered group outer lexemes = some piece) : piece.IsCounted := by
  fun_induction ofLexemes numbered group outer lexemes with
  | case1 numbered group =>
    obtain rfl := Option.some.inj read
    exact counted.content
  | case2 => contradiction
  | case3 numbered group outer isNumbered change later index ih =>
    exact ih (Group.isCounted_start _ _) (List.forall_mem_cons.mpr ⟨counted, around⟩)
      (List.forall_mem_cons.mp each).2 read
  | case4 numbered group outer change later ih =>
    exact ih (counted.change change) around (List.forall_mem_cons.mp each).2 read
  | case5 => contradiction
  | case6 numbered group parent outer later ih =>
    obtain ⟨parentCounted, around⟩ := List.forall_mem_cons.mp around
    exact ih (parentCounted.push counted.finish) around (List.forall_mem_cons.mp each).2 read
  | case7 numbered group outer later ih =>
    exact ih counted.next around (List.forall_mem_cons.mp each).2 read
  | case8 numbered group outer minimum maximum greedy later body depth items listed repeated ih =>
    obtain ⟨ordered, others⟩ := List.forall_mem_cons.mp each
    have inside := counted.items
    rw [listed] at inside
    obtain ⟨bodyCounted, itemsCounted⟩ := List.forall_mem_cons.mp inside
    refine ih ⟨counted.alternatives, List.forall_mem_cons.mpr ⟨?_, itemsCounted⟩⟩ around others read
    intro pattern found
    obtain rfl := Option.some.inj found
    exact isCounted_times _ ordered (bodyCounted body rfl)
  | case9 => contradiction
  | case10 numbered group outer lexeme later _ _ _ _ _ _ item taken ih =>
    exact ih (counted.push (Piece.isCounted_of_atom taken)) around
      (List.forall_mem_cons.mp each).2 read
  | case11 => contradiction

/-- No repetition in a pattern that was read from a text asks for more rounds than it allows. -/
theorem isCounted_of_parse {text : String} (read : parse? text = some pattern) :
    pattern.IsCounted := by
  obtain ⟨lexemes, cut, read⟩ := Option.bind_eq_some_iff.mp read
  obtain ⟨piece, composed, read⟩ := Option.bind_eq_some_iff.mp read
  obtain ⟨found, described, read⟩ := Option.bind_eq_some_iff.mp read
  have counted := isCounted_of_ofLexemes (Group.isCounted_start none .initial)
    (fun _ listed => absurd listed List.not_mem_nil)
    (Lexeme.isCounted_of_all cut) composed
  split at read
  · obtain rfl := Option.some.inj read
    exact counted found described
  · contradiction

end Pattern

end Packrat
