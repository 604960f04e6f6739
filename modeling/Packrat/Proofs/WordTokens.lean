import Packrat.Grammars.Words
import Packrat.Proofs.DraftClass
import Packrat.Proofs.Lexing
import Packrat.Proofs.Runs

/-!
# The tokens of a text

A stream over the grammar of words cuts a text into tokens as far as the grammar knows its
characters (`Words.stream_tiles`): the tokens lie one behind the other, each is the longest of its
kind where it starts, and only blanks lie outside them. At the first character that the grammar does
not know the stream ends with one diagnostic, which covers this character.
-/

namespace Packrat.Words

/-! ## Tokens -/

/-- The kinds of tokens. -/
inductive TokenKind where
  /-- Letters, with single apostrophes or hyphens between them. -/
  | word
  /-- Digits, perhaps with a point between them. -/
  | number
  /-- A punctuation mark. -/
  | punctuation
deriving DecidableEq, Repr

/-- Whether a character may stand between two runs of letters. -/
def isJoint (c : Char) : Bool :=
  ['\'', '-'].contains c

/-- A joint is an apostrophe or a hyphen. -/
theorem eq_of_isJoint {c : Char} (joins : isJoint c = true) : c = '\'' ∨ c = '-' := by
  simpa [isJoint] using joins

/-- The label of the tokens of a kind. -/
def TokenKind.token : TokenKind → Token
  | word => .named "word"
  | number => .named "number"
  | punctuation => .named "punctuation"

/-- The number of the definition of the tokens of a kind. -/
def TokenKind.definition : TokenKind → RuleId
  | word => 0
  | number => 1
  | punctuation => 2

/-- The characters with which the tokens of a kind start. -/
def TokenKind.first : TokenKind → CharacterSet
  | word => .letters
  | number => .decimalDigits
  | punctuation => .punctuation

/-- The texts of the tokens of a kind. -/
def TokenKind.Spells : TokenKind → List Char → Prop
  | word, text => ∃ joints, IsJoined Unicode.isAlphabetic isJoint joints text
  | number, text => ∃ joints ≤ 1, IsJoined Char.isDigit (· == '.') joints text
  | punctuation, text => ∃ c, CharacterSet.isPunctuation c = true ∧ text = [c]

/-- Whether the grammar knows a character: letters, digits, punctuation marks and blanks. -/
def isKnown (c : Char) : Bool :=
  Unicode.isAlphabetic c || c.isDigit || CharacterSet.isPunctuation c || Unicode.isBlank c

/-- No known character is ahead just if no letter, digit, punctuation mark or blank is. -/
theorem startsOutside_isKnown {ahead : List Char} :
    StartsOutside isKnown ahead ↔
      StartsOutside CharacterSet.letters.contains ahead ∧
        StartsOutside CharacterSet.decimalDigits.contains ahead ∧
        StartsOutside CharacterSet.punctuation.contains ahead ∧
        StartsOutside CharacterSet.whitespacesAndNewlines.contains ahead := by
  cases ahead with
  | nil => simp [StartsOutside]
  | cons c later => simp [startsOutside_cons, isKnown, CharacterSet.contains, and_assoc]

/-- The first position with a character that the grammar does not know, or the end if there is none.
-/
def reach (source : Source) : Nat :=
  source.chars.findIdx (!isKnown ·)

/-- Tokens lie one behind the other in a stretch of a source, and only blanks lie outside them. -/
structure Tiling (source : Source) (start stop : Nat) (nodes : List Node) : Prop where
  /-- Every token ends before the next ones start. -/
  ordered : nodes.Pairwise fun earlier later => earlier.span.stop ≤ later.span.start
  /-- No token is empty, and all lie in the stretch. -/
  inside : ∀ node ∈ nodes,
    start ≤ node.span.start ∧ node.span.start < node.span.stop ∧ node.span.stop ≤ stop
  /-- Every token is the longest of its kind where it starts. -/
  longest : ∀ node ∈ nodes, ∃ (kind : TokenKind) (text : List Char), node.token = kind.token ∧
    IsLongest kind.Spells text (source.after node.span.start) ∧
    node.span.stop = node.span.start + text.length
  /-- Every character of the stretch outside the tokens is a blank. -/
  blanks : ∀ position, start ≤ position → position < stop →
    (∀ node ∈ nodes, ¬ (node.span.start ≤ position ∧ position < node.span.stop)) →
    ∃ c, source.charAt position = some c ∧ Unicode.isBlank c = true

/-- The longest token of a kind, or blanks, stand between two cursors. -/
inductive Cut (here : Scanner) : List Node → Scanner → Prop
  /-- A token leaves a node. -/
  | token {kind : TokenKind} {text : List Char} {next : Scanner} {children : List Node}
      (taken : here.Takes text next) (longest : IsLongest kind.Spells text here.remaining) :
      Cut here [.mk kind.token ⟨here.position, next.position⟩ .empty children] next
  /-- Blanks leave nothing. -/
  | blanks {text : List Char} {next : Scanner} (taken : here.Takes text next)
      (run : IsRun Unicode.isBlank text) : Cut here [] next

/-! ## The grammar -/

/-- The definitions of the grammar. -/
abbrev definitions : List (String × Rule) :=
  draft.definitions

/-- The names of the definitions. -/
abbrev names : List String :=
  definitions.map (·.1)

/-- Every name leads to its definition. -/
theorem findIdx?_names (place : Nat) (name : String) (listed : names[place]? = some name) :
    definitions.findIdx? (·.1 == name) = some place := by
  match place with
  | 0 | 1 | 2 | 3 => exact Option.some.inj listed ▸ rfl
  | _ + 4 => contradiction

/-- The draft gives a grammar. -/
theorem build_isOk : draft.build.isOk = true := by
  decide +kernel

/-- Whether the definitions of tokens have no skipped parts, and no rule with a token is replaced by
its children. -/
def isPlain (grammar : Grammar) : Bool :=
  grammar.keepsNodes &&
    [0, 1, 2].all fun id => (grammar.testOf (grammar.rule id)).callees.all (grammar.isSolid 2)

/-- The grammar is plain. -/
theorem build_isPlain : draft.build.toOption.all isPlain = true := by
  decide +kernel

/-- The grammar is built, its definitions and root stand as the draft gives them, and it is free of
procedures and plain. -/
theorem exists_built : ∃ built, grammar = .ok built ∧ draft.IsRendered built ∧
    built.isProcedureFree = true ∧ isPlain built = true := by
  obtain ⟨built, known⟩ : ∃ built, draft.build = .ok built := by
    have accepted := build_isOk
    cases known : draft.build with
    | ok built => exact ⟨built, rfl⟩
    | error fault =>
      rw [known] at accepted
      contradiction
  have plain := build_isPlain
  rw [known] at plain
  exact ⟨built, known, Draft.isRendered_of_build known,
    (Draft.isProcedureFree_of_build known).mpr (by decide +kernel), plain⟩

section Rendered

open Effect

variable {grammar : Grammar} (rendered : draft.IsRendered grammar) {here : Scanner}

include rendered

/-- A definition stands under its number. -/
theorem stands {id : RuleId} {name : String} {rule : Rule}
    (listed : definitions[id]? = some (name, rule)) : rule.Stands definitions grammar id :=
  Rule.stands_of_definition (rendered.definition listed)

/-- The root stands for a choice of references. -/
theorem stands_root :
    (Rule.choice (names.map Rule.reference)).Stands definitions grammar grammar.root :=
  Rule.stands_of_part (rendered.root rfl)

/-! What the definitions refuse. -/

/-- Where no letter is ahead, there is no word. -/
theorem refuses_word (outside : StartsOutside CharacterSet.letters.contains here.remaining) :
    grammar.Refuses 0 here :=
  (stands rendered rfl).refuses_of_sequence rfl rfl rfl fun _ standing =>
    standing.refuses_of_terminal rfl rfl rfl (scan_set_of_outside outside)

/-- Where no digit is ahead, there is no number. -/
theorem refuses_number
    (outside : StartsOutside CharacterSet.decimalDigits.contains here.remaining) :
    grammar.Refuses 1 here :=
  (stands rendered rfl).refuses_of_sequence rfl rfl rfl fun _ standing =>
    standing.refuses_of_terminal rfl rfl rfl (scan_set_of_outside outside)

/-- Where no punctuation mark is ahead, there is none. -/
theorem refuses_punctuation
    (outside : StartsOutside CharacterSet.punctuation.contains here.remaining) :
    grammar.Refuses 2 here :=
  (stands rendered rfl).refuses_of_terminal rfl rfl rfl (scan_set_of_outside outside)

/-- Where no blank is ahead, there is no space. -/
theorem refuses_space
    (outside : StartsOutside CharacterSet.whitespacesAndNewlines.contains here.remaining) :
    grammar.Refuses 3 here :=
  (stands rendered rfl).refuses_of_terminal rfl rfl rfl (scan_set_of_outside outside)

/-! What the definitions take. -/

/-- A word is a run of letters and tails of a joint and letters. -/
theorem effect_word : grammar.effect 0 =
    sequence [run .letters, repeated (tail (scan (.set (.custom "'-"))) .letters) .zeroOrMore] := by
  have some : letters.Means definitions grammar (run .letters) :=
    Rule.means_repeated rfl rfl rfl (Expression.means_terminal _)
  have joint : (Rule.set (.custom "'-")).Means definitions grammar (scan (.set (.custom "'-"))) :=
    Rule.means_once rfl rfl rfl rfl (Expression.means_terminal _)
  have tails : (Rule.sequence [.set (.custom "'-"), letters]).zeroOrMore.Means definitions grammar
      (repeated (tail (scan (.set (.custom "'-"))) .letters) .zeroOrMore) :=
    Rule.means_repeated rfl rfl rfl (Expression.means_sequence (.cons joint (.cons some .nil)))
  exact Rule.means_once rfl rfl rfl rfl
    (Expression.means_sequence (.cons some (.cons tails .nil))) 0 (stands rendered rfl)

/-- A number is a run of digits and perhaps a tail of a point and digits. -/
theorem effect_number : grammar.effect 1 =
    sequence [run .decimalDigits, perhaps (tail (scan (.literal ".")) .decimalDigits)] := by
  have some : digits.Means definitions grammar (run .decimalDigits) :=
    Rule.means_repeated rfl rfl rfl (Expression.means_terminal _)
  have point : (Rule.literal ".").Means definitions grammar (scan (.literal ".")) :=
    Rule.means_once rfl rfl rfl rfl (Expression.means_terminal _)
  have rest : (Rule.sequence [.literal ".", digits]).optional.Means definitions grammar
      (perhaps (tail (scan (.literal ".")) .decimalDigits)) :=
    Rule.means_optional rfl rfl rfl rfl
      (Expression.means_sequence (.cons point (.cons some .nil)))
  exact Rule.means_once rfl rfl rfl rfl
    (Expression.means_sequence (.cons some (.cons rest .nil))) 1 (stands rendered rfl)

/-- A punctuation mark is a single character. -/
theorem effect_punctuation : grammar.effect 2 = scan (.set .punctuation) :=
  Rule.means_once rfl rfl rfl rfl (Expression.means_terminal _) 2 (stands rendered rfl)

/-- A space is a run of blanks. -/
theorem effect_space : grammar.effect 3 = run .whitespacesAndNewlines :=
  Rule.means_repeated rfl rfl rfl (Expression.means_terminal _) 3 (stands rendered rfl)

/-- Where a token of a kind can start, its definition takes the longest one. -/
theorem exists_longest (kind : TokenKind)
    (starts : ¬ StartsOutside kind.first.contains here.remaining) :
    ∃ text next, here.Takes text next ∧ IsLongest kind.Spells text here.remaining ∧
      grammar.effect kind.definition here = .matched next [] := by
  cases kind with
  | word =>
    have apart : ∀ c, isJoint c = true → CharacterSet.letters.contains c = false := by
      intro c joins
      rcases eq_of_isJoint joins with rfl | rfl <;> decide +kernel
    have one : ReadsOne (scan (.set (.custom "'-"))) isJoint := readsOne_set _
    obtain ⟨text, longest, reads⟩ := exists_longest_joined one apart starts
    obtain ⟨next, taken, effect⟩ := reads here rfl
    exact ⟨text, next, taken, longest, (congrFun (effect_word rendered) here).trans effect⟩
  | number =>
    have apart : ∀ c, (c == '.') = true → CharacterSet.decimalDigits.contains c = false := by
      intro c joins
      rw [eq_of_beq joins]
      decide +kernel
    have one : ReadsOne (scan (.literal ".")) (· == '.') := readsOne_literal rfl
    obtain ⟨text, longest, reads⟩ := exists_longest_joined_once one apart starts
    obtain ⟨next, taken, effect⟩ := reads here rfl
    exact ⟨text, next, taken, longest, (congrFun (effect_number rendered) here).trans effect⟩
  | punctuation =>
    obtain ⟨run, rest, split, whole, -⟩ := (exists_run here.remaining).resolve_left starts
    obtain ⟨c, later, rfl⟩ := List.exists_cons_of_ne_nil whole.filled
    have taken : here.Takes [c] _ := Scanner.takes_advance split
    have mark := whole.all c List.mem_cons_self
    refine ⟨[c], _, taken, ⟨⟨c, mark, rfl⟩, ⟨_, split.symm⟩, ?_⟩, ?_⟩
    · rintro other ⟨d, -, rfl⟩ -
      exact Nat.le_refl 1
    · have reads : Reads (scan (.set .punctuation)) [c] fun _ => True := reads_set mark
      exact (congrFun (effect_punctuation rendered) here).trans (reads taken trivial)

/-- A definition of tokens lexes where it matches, and leaves a node over what it took. -/
theorem lexes_definition (free : grammar.isProcedureFree = true) (plain : isPlain grammar = true)
    (kind : TokenKind) {next : Scanner}
    (effect : grammar.effect kind.definition here = .matched next []) :
    ∃ children, grammar.Lexes kind.definition here
      [.mk kind.token ⟨here.position, next.position⟩ .empty children] next := by
  obtain ⟨rule, standing, behaviour, annotations⟩ : ∃ rule : Rule,
      rule.Stands definitions grammar kind.definition ∧
        rule.behaviour = ⟨.structural kind.token, .one, false, false⟩ ∧
        rule.annotations = .empty := by
    cases kind <;> exact ⟨_, stands rendered rfl, rfl, rfl⟩
  obtain ⟨sameBehaviour, sameAnnotations, -⟩ := standing.rule_eq
  rw [behaviour] at sameBehaviour
  rw [annotations] at sameAnnotations
  have solid : (grammar.testOf (grammar.rule kind.definition)).callees.all (grammar.isSolid 2) =
      true := by
    refine List.all_eq_true.mp ((Bool.and_eq_true _ _).mp plain).2 kind.definition ?_
    cases kind <;> decide
  have lexes := Grammar.lexes_of_node free (by rw [sameBehaviour]) (by rw [sameAnnotations]; rfl)
    (by rw [Occurrence.shape, sameBehaviour, sameAnnotations]; rfl)
    (by rw [Occurrence.token, sameBehaviour, sameAnnotations]; rfl) solid effect
  rwa [sameAnnotations] at lexes

/-- Where a blank is ahead, the space lexes, takes blanks and leaves nothing. -/
theorem exists_space
    (starts : ¬ StartsOutside CharacterSet.whitespacesAndNewlines.contains here.remaining) :
    ∃ text next, here.Takes text next ∧ IsRun Unicode.isBlank text ∧
      grammar.Lexes 3 here [] next := by
  obtain ⟨text, rest, split, whole, outside⟩ := (exists_run here.remaining).resolve_left starts
  have taken := Scanner.takes_advance split
  refine ⟨text, _, taken, whole, (stands rendered rfl).lexes_of_skipped rfl rfl rfl ?_⟩
  rw [effect_space rendered]
  exact reads_run whole taken (taken.remaining_eq split ▸ outside)

/-- Where a known character is ahead, the root lexes, and takes the longest token of a kind, or
blanks. -/
theorem exists_cut (free : grammar.isProcedureFree = true) (plain : isPlain grammar = true)
    (known : ¬ StartsOutside isKnown here.remaining) :
    ∃ nodes next, Cut here nodes next ∧ grammar.Lexes grammar.root here nodes next := by
  have root := stands_root rendered
  have token : ∀ kind : TokenKind, ¬ StartsOutside kind.first.contains here.remaining →
      (∀ earlier < kind.definition, grammar.Refuses earlier here) →
      ∃ nodes next, Cut here nodes next ∧ grammar.Lexes grammar.root here nodes next := by
    intro kind starts refuse
    obtain ⟨text, next, taken, longest, effect⟩ := exists_longest rendered kind starts
    obtain ⟨children, lexes⟩ := lexes_definition rendered free plain kind effect
    have inside : kind.definition < names.length := by cases kind <;> decide
    exact ⟨_, next, .token taken longest,
      root.lexes_of_references findIdx?_names inside refuse lexes⟩
  by_cases letter : StartsOutside CharacterSet.letters.contains here.remaining
  swap
  · exact token .word letter nofun
  have noWord := refuses_word rendered letter
  by_cases digit : StartsOutside CharacterSet.decimalDigits.contains here.remaining
  swap
  · refine token .number digit fun earlier before => ?_
    obtain rfl : earlier = 0 := Nat.lt_one_iff.mp before
    exact noWord
  have noNumber := refuses_number rendered digit
  by_cases mark : StartsOutside CharacterSet.punctuation.contains here.remaining
  swap
  · refine token .punctuation mark fun earlier before => ?_
    match earlier, before with
    | 0, _ => exact noWord
    | 1, _ => exact noNumber
  have noPunctuation := refuses_punctuation rendered mark
  have blank : ¬ StartsOutside CharacterSet.whitespacesAndNewlines.contains here.remaining :=
    fun outside => known (startsOutside_isKnown.mpr ⟨letter, digit, mark, outside⟩)
  obtain ⟨text, next, taken, whole, lexes⟩ := exists_space rendered blank
  refine ⟨[], _, .blanks taken whole, root.lexes_of_references findIdx?_names (by decide)
    (fun earlier before => ?_) lexes⟩
  match earlier, before with
  | 0, _ => exact noWord
  | 1, _ => exact noNumber
  | 2, _ => exact noPunctuation

/-- Where no known character is ahead, the root refuses. -/
theorem refuses_root (outside : StartsOutside isKnown here.remaining) :
    grammar.Refuses grammar.root here := by
  obtain ⟨letter, digit, mark, blank⟩ := startsOutside_isKnown.mp outside
  refine (stands_root rendered).refuses_of_references findIdx?_names fun place inside => ?_
  match place, inside with
  | 0, _ => exact refuses_word rendered letter
  | 1, _ => exact refuses_number rendered digit
  | 2, _ => exact refuses_punctuation rendered mark
  | 3, _ => exact refuses_space rendered blank

end Rendered

/-! ## Tilings -/

/-- The texts of tokens are not empty, and all their characters are known. -/
theorem TokenKind.Spells.known {kind : TokenKind} {text : List Char} (spells : kind.Spells text) :
    text ≠ [] ∧ ∀ c ∈ text, isKnown c = true := by
  have joined : ∀ {inside joint : Char → Bool} {count : Nat}, IsJoined inside joint count text →
      (∀ c, inside c = true → isKnown c = true) → (∀ c, joint c = true → isKnown c = true) →
      text ≠ [] ∧ ∀ c ∈ text, isKnown c = true := by
    intro inside joint count runs insideKnown jointKnown
    obtain ⟨c, later, rfl, -⟩ := runs.exists_cons
    exact ⟨List.cons_ne_nil c later,
      fun d member => (runs.mem d member).elim (insideKnown d) (jointKnown d)⟩
  cases kind with
  | word =>
    obtain ⟨count, runs⟩ := spells
    refine joined runs (fun c letter => by simp [isKnown, letter]) fun c joins => ?_
    rcases eq_of_isJoint joins with rfl | rfl <;> decide +kernel
  | number =>
    obtain ⟨count, -, runs⟩ := spells
    refine joined runs (fun c digit => by simp [isKnown, digit]) fun c joins => ?_
    rw [eq_of_beq joins]
    decide +kernel
  | punctuation =>
    obtain ⟨c, mark, rfl⟩ := spells
    exact ⟨List.cons_ne_nil c [], fun d member => by
      simp [isKnown, List.mem_singleton.mp member, mark]⟩

/-- Between the cursors stands a text of known characters, at least one. -/
theorem Cut.exists_text {here next : Scanner} {nodes : List Node} (cut : Cut here nodes next) :
    ∃ text, here.Takes text next ∧ text ≠ [] ∧ ∀ c ∈ text, isKnown c = true := by
  cases cut with
  | token taken longest => exact ⟨_, taken, longest.spoken.known⟩
  | blanks taken run =>
    exact ⟨_, taken, run.filled, fun c member => by simp [isKnown, run.all c member]⟩

/-- Nothing lies in an empty stretch. -/
theorem tiling_nil (source : Source) (position : Nat) : Tiling source position position [] :=
  ⟨.nil, nofun, nofun, fun _ behind before => absurd before (Nat.not_lt_of_le behind)⟩

/-- A token or blanks may lie before a tiling. -/
theorem Cut.tiling {here next : Scanner} {nodes later : List Node} {stop : Nat}
    (cut : Cut here nodes next) (fits : next.position ≤ stop)
    (rest : Tiling here.source next.position stop later) :
    Tiling here.source here.position stop (nodes.map Node.stripped ++ later) := by
  obtain ⟨text, taken, filled, -⟩ := cut.exists_text
  have onward : here.position < next.position := by
    have positive := List.length_pos_iff.mpr filled
    rw [taken.position]
    omega
  have behind : ∀ node ∈ later, here.position ≤ node.span.start ∧
      node.span.start < node.span.stop ∧ node.span.stop ≤ stop := fun node member =>
    ⟨onward.le.trans (rest.inside node member).1, (rest.inside node member).2⟩
  cases cut with
  | @token kind text next children taken longest =>
    refine ⟨.cons (fun node member => (rest.inside node member).1) rest.ordered,
      List.forall_mem_cons.mpr ⟨⟨Nat.le_refl _, onward, fits⟩, behind⟩,
      List.forall_mem_cons.mpr ⟨⟨kind, text, rfl, longest, taken.position⟩, rest.longest⟩, ?_⟩
    intro position started before outside
    obtain ⟨first, others⟩ := List.forall_mem_cons.mp outside
    exact rest.blanks position (Nat.le_of_not_lt fun inner => first ⟨started, inner⟩) before others
  | blanks taken run =>
    refine ⟨rest.ordered, behind, rest.longest, fun position started before outside => ?_⟩
    by_cases inner : position < next.position
    · obtain ⟨c, member, stands⟩ := taken.exists_charAt started inner
      exact ⟨c, stands, run.all c member⟩
    · exact rest.blanks position (Nat.le_of_not_lt inner) before outside

/-! ## Streams -/

/-- From every cursor the root lexes in one pass after the other, up to a character that is not
known, and the nodes that it leaves tile what it took. -/
theorem exists_lexing {grammar : Grammar} (rendered : draft.IsRendered grammar)
    (free : grammar.isProcedureFree = true) (plain : isPlain grammar = true) (here : Scanner) :
    ∃ nodes last text, grammar.Lexing here nodes last ∧ here.Takes text last ∧
      (∀ c ∈ text, isKnown c = true) ∧ StartsOutside isKnown last.remaining ∧
      Tiling here.source here.position last.position (nodes.map Node.stripped) := by
  induction size : here.remaining.length using Nat.strong_induction_on generalizing here with
  | _ size ih =>
  subst size
  by_cases outside : StartsOutside isKnown here.remaining
  · exact ⟨[], here, [], .nothing, .refl here, nofun, outside, tiling_nil _ _⟩
  obtain ⟨nodes, next, cut, lexes⟩ := exists_cut rendered free plain outside
  obtain ⟨text, taken, filled, known⟩ := cut.exists_text
  have positive := List.length_pos_iff.mpr filled
  have shorter : next.remaining.length < here.remaining.length := by
    rw [taken.ahead, List.length_append]
    omega
  obtain ⟨later, last, rest, lexing, goesOn, knownRest, ends, tiling⟩ := ih _ shorter next rfl
  have onward : next.position ≠ here.position := by
    rw [taken.position]
    omega
  refine ⟨nodes ++ later, last, text ++ rest, .further lexes onward lexing, taken.trans goesOn,
    List.forall_mem_append.mpr ⟨known, knownRest⟩, ends, ?_⟩
  rw [List.map_append]
  refine cut.tiling ?_ (taken.source ▸ tiling)
  rw [goesOn.position]
  exact Nat.le_add_right _ _

/-- Where known characters stand before one that is not known, or before the end, they are all that
is reached. -/
theorem reach_eq {source : Source} {text : List Char} {last : Scanner}
    (taken : (Scanner.start source).Takes text last) (known : ∀ c ∈ text, isKnown c = true)
    (outside : StartsOutside isKnown last.remaining) : last.position = reach source := by
  have chars : source.chars = text ++ last.remaining := taken.ahead
  have all : text.findIdx (!isKnown ·) = text.length :=
    List.findIdx_eq_length.mpr fun c member => by rw [known c member]; rfl
  have first : last.remaining.findIdx (!isKnown ·) = 0 := by
    cases ahead : last.remaining with
    | nil => rfl
    | cons c later =>
      rw [ahead, startsOutside_cons] at outside
      simp [List.findIdx_cons, outside]
  rw [reach, chars, List.findIdx_append, all, first, if_neg (Nat.lt_irrefl _), taken.position]
  exact (Nat.zero_add _).trans (Nat.zero_add _).symm

/-- The grammar of words is built, and a stream over it yields tokens that tile its source up to the
first character that the grammar does not know. The stream reaches the end if there is none;
otherwise it stands there, with one diagnostic, which covers this character. -/
theorem stream_tiles : ∃ built, grammar = .ok built ∧
    ∀ (source : Source) (cache : Option CacheBounds), ∃ nodes last,
      (TokenStream.start built ⟨cache, none⟩ source).Yields nodes last ∧
      Tiling source 0 (reach source) nodes ∧
      (last.reachedEnd = true ↔ reach source = source.length) ∧
      (reach source < source.length → last.position = reach source ∧
        ∃ message, last.errors = [⟨⟨reach source, reach source + 1⟩, message⟩]) := by
  obtain ⟨built, known, rendered, free, plain⟩ := exists_built
  have keeps : built.keepsNodes = true := ((Bool.and_eq_true _ _).mp plain).1
  refine ⟨built, known, fun source cache => ?_⟩
  have unlimited : (⟨cache, none⟩ : Config).callLimit = none := rfl
  have paired := paired_start built unlimited source
  obtain ⟨nodes, stop, text, lexing, taken, all, outside, tiling⟩ :=
    exists_lexing rendered free plain (.start source)
  have reached : stop.position = reach source := reach_eq taken all outside
  have length : stop.source.length = source.length := congrArg Source.length taken.source
  have inside := stop.inside
  rw [reached] at tiling
  cases done : stop.atEnd with
  | true =>
    have whole : reach source = source.length := by
      have beyond : stop.source.length ≤ stop.position := of_decide_eq_true done
      omega
    obtain ⟨last, yields, scanner, errors⟩ := paired.yields_all free keeps lexing done
    have clean : last.errors = [] := errors
    refine ⟨_, last, yields, tiling, iff_of_true ?_ whole, fun short => absurd whole short.ne⟩
    rw [TokenStream.reachedEnd, scanner, done, clean]
    rfl
  | false =>
    have short : reach source < source.length := by
      have before : ¬ stop.source.length ≤ stop.position := of_decide_eq_false done
      omega
    obtain ⟨last, message, yields, position, errors⟩ :=
      paired.yields_refused free keeps lexing done (refuses_root rendered outside)
    rw [reached] at position errors
    refine ⟨_, last, yields, tiling, iff_of_false ?_ short.ne, fun _ =>
      ⟨position, message, errors⟩⟩
    rw [TokenStream.reachedEnd, errors]
    simp

end Packrat.Words
