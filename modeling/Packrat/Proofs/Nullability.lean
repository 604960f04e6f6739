import Mathlib.Data.Finset.Card
import Mathlib.Data.Finset.Range
import Mathlib.Data.Nat.Order.Lemmas
import Packrat.Proofs.Numbering
import Packrat.Proofs.ParsingExpression

/-!
# Rules that may match nothing

Whether a rule is held to match without taking a character is found by a search that follows every
reference at most once. It finds exactly the rules that are nullable to some height, where
references are followed as often as one likes down to a height (`isNullable_iff`): at the least
height of a rule nothing is followed twice, so the search gets as far.

A rule that by the rules of parsing expressions ends where it started is nullable to some height
(`RuleParse.onward`), unless it lifts the negation of the definition whose test it shares: the
search asks about the definition as it stands. So the search misses no rule that matches nothing
(`RuleParse.isNullable`, `matchRule_isNullable`) but such a one (`lifting_not_isNullable`).
-/

namespace Packrat

variable {P : Type}

/-- Whether a rule may match nothing whatever its test comes to. -/
def Occurrence.isLenient (rule : Occurrence P) : Bool :=
  rule.behaviour.cardinality.isOptional || rule.behaviour.lookahead || rule.annotations.pinned

/-- Whether a test is held to match nothing, given what its references and its parts are held to. -/
def Test.emptyBy (follow inner : RuleId → Bool) : Test P → Bool
  | .terminal leaf => leaf.canBeEmpty
  | .reference target => follow target
  | .group part => inner part
  | .sequence parts => parts.all inner
  | .choice parts => parts.any inner
  | .procedure _ => false

/-- A test is held to match nothing if references and parts are held to match nothing more often. -/
theorem Test.emptyBy_mono {test : Test P} {follow inner otherFollow otherInner : RuleId → Bool}
    (references : ∀ target, test = .reference target → follow target = true →
      otherFollow target = true)
    (inside : ∀ part ∈ test.parts, inner part = true → otherInner part = true)
    (empty : test.emptyBy follow inner = true) : test.emptyBy otherFollow otherInner = true := by
  cases test with
  | terminal terminal => exact empty
  | reference target => exact references target rfl empty
  | procedure steps => contradiction
  | group part => exact inside part (List.mem_singleton.mpr rfl) empty
  | sequence parts =>
    refine List.all_eq_true.mpr fun part member => ?_
    exact inside part member (List.all_eq_true.mp empty part member)
  | choice parts =>
    obtain ⟨part, member, nullable⟩ := List.any_eq_true.mp empty
    exact List.any_eq_true.mpr ⟨part, member, inside part member nullable⟩

/-- Whether the test of a rule is held to match nothing, given what rules that it stands for and its
parts are held to. -/
def Body.emptyBy (follow inner : RuleId → Bool) : Body P → Bool
  | .own test => test.emptyBy follow inner
  | .shared definition => follow definition

namespace Grammar

variable {grammar : Grammar P}

/-! ## The steps of a search -/

/-- How many definitions a search has not followed yet. -/
def unfollowed (grammar : Grammar P) (followed : List RuleId) : Nat :=
  (Finset.range grammar.names.length \ followed.toFinset).card

/-- How many steps a search at a rule may still take: it goes down into parts until it follows a
definition that is new. -/
def budget (grammar : Grammar P) (followed : List RuleId) (id : RuleId) : Nat :=
  grammar.unfollowed followed * (grammar.size + 1) + grammar.rank id

namespace IsOrdered

/-- A step into a part uses up some of the budget. -/
theorem budget_part (ordered : grammar.IsOrdered) (followed : List RuleId) {id part : RuleId}
    (member : part ∈ (grammar.rule id).parts) :
    grammar.budget followed part < grammar.budget followed id :=
  Nat.add_lt_add_left (ordered.contains member).2.2 _

/-- Following something that is new uses up some of the budget. -/
theorem budget_follow (ordered : grammar.IsOrdered) {followed later : List RuleId}
    {id target : RuleId} (stands : (grammar.rule id).target? = some target)
    (new : target ∉ followed)
    (follows : ∀ other, other ∈ later ↔ other = target ∨ other ∈ followed) :
    grammar.budget later target < grammar.budget followed id := by
  have subset : Finset.range grammar.names.length \ later.toFinset ⊆
      Finset.range grammar.names.length \ followed.toFinset := by
    intro other member
    simp only [Finset.mem_sdiff, List.mem_toFinset, follows, not_or] at member ⊢
    exact ⟨member.1, member.2.2⟩
  unfold budget
  rcases ordered.target stands with isDefinition | ⟨_, lower⟩
  · have fewer : grammar.unfollowed later < grammar.unfollowed followed := by
      refine Finset.card_lt_card ⟨subset, fun back => ?_⟩
      have member : target ∈ Finset.range grammar.names.length \ followed.toFinset := by
        simpa using ⟨isDefinition, new⟩
      have kept := back member
      simp [follows] at kept
    have highest : grammar.rank target = grammar.size := if_pos isDefinition
    calc
      grammar.unfollowed later * (grammar.size + 1) + grammar.rank target <
          (grammar.unfollowed later + 1) * (grammar.size + 1) := by
        rw [highest, Nat.succ_mul]
        omega
      _ ≤ grammar.unfollowed followed * (grammar.size + 1) := Nat.mul_le_mul_right _ fewer
      _ ≤ _ := Nat.le_add_right _ _
  · have fewer : grammar.unfollowed later ≤ grammar.unfollowed followed :=
      Finset.card_le_card subset
    have most := Nat.mul_le_mul_right (grammar.size + 1) fewer
    omega

/-- A search has the budget for every rule of the grammar. -/
theorem budget_lt (ordered : grammar.IsOrdered) (followed : List RuleId) {id : RuleId}
    (inside : id < grammar.size) : grammar.budget followed id < grammar.searchBound := by
  have all : grammar.unfollowed followed ≤ grammar.size := by
    refine Nat.le_trans (Finset.card_le_card Finset.sdiff_subset) ?_
    rw [Finset.card_range]
    exact ordered.names_le
  have low : grammar.rank id ≤ grammar.size := by
    unfold rank
    split
    · exact Nat.le_refl _
    · exact Nat.le_of_lt inside
  unfold budget searchBound
  calc
    grammar.unfollowed followed * (grammar.size + 1) + grammar.rank id ≤
        grammar.size * (grammar.size + 1) + grammar.size :=
      Nat.add_le_add (Nat.mul_le_mul_right _ all) low
    _ < (grammar.size + 1) * (grammar.size + 1) := by rw [Nat.succ_mul]; omega

end IsOrdered

/-! ## Nullability to a height -/

/-- Whether a rule is held to match nothing, given what rules that it stands for and its parts are
held to. -/
def nullableBy (grammar : Grammar P) (follow inner : RuleId → Bool) (id : RuleId) : Bool :=
  (grammar.rule id).isLenient ||
    (!(grammar.rule id).behaviour.negate && (grammar.rule id).body.emptyBy follow inner)

/-- Whether a rule is held to match nothing by going down through references and parts to a
height. -/
def nullableTo (grammar : Grammar P) : Nat → RuleId → Bool
  | 0, _ => false
  | height + 1, id => grammar.nullableBy (grammar.nullableTo height) (grammar.nullableTo height) id

/-- One step of the search asks what rules that are stood for and parts are held to. -/
theorem nullableWithin_succ (grammar : Grammar P) (steps : Nat) (followed : List RuleId)
    (id : RuleId) :
    grammar.nullableWithin (steps + 1) followed id =
      grammar.nullableBy
        (fun target =>
          if followed.contains target then false
          else grammar.nullableWithin steps (target :: followed) target)
        (grammar.nullableWithin steps followed) id := by
  simp only [nullableWithin, nullableBy]
  change (if (grammar.rule id).isLenient = true then true else _) = _
  cases (grammar.rule id).isLenient with
  | true => rfl
  | false =>
    cases (grammar.rule id).behaviour.negate with
    | true => rfl
    | false =>
      cases (grammar.rule id).body with
      | shared definition => rfl
      | own test => cases test <;> rfl

/-- A rule is held to match nothing if rules that it stands for and parts are more often. -/
theorem nullableBy_mono {follow inner otherFollow otherInner : RuleId → Bool} {id : RuleId}
    (references : ∀ target, (grammar.rule id).target? = some target →
      follow target = true → otherFollow target = true)
    (inside : ∀ part ∈ (grammar.rule id).parts, inner part = true → otherInner part = true)
    (nullable : grammar.nullableBy follow inner id = true) :
    grammar.nullableBy otherFollow otherInner id = true := by
  simp only [nullableBy, Bool.or_eq_true, Bool.and_eq_true] at nullable ⊢
  rcases nullable with lenient | ⟨plain, empty⟩
  · exact .inl lenient
  · refine .inr ⟨plain, ?_⟩
    unfold Occurrence.target? at references
    unfold Occurrence.parts at inside
    cases body : (grammar.rule id).body with
    | shared definition =>
      rw [body] at references empty
      exact references definition rfl empty
    | own test =>
      rw [body] at references inside empty
      refine Test.emptyBy_mono (fun target refers => ?_) inside empty
      exact references target (by rw [refers])

/-- A rule that is nullable to a height is nullable to every greater one. -/
theorem nullableTo_mono {height taller : Nat} (higher : height ≤ taller) {id : RuleId}
    (nullable : grammar.nullableTo height id = true) : grammar.nullableTo taller id = true := by
  induction height generalizing taller id with
  | zero => contradiction
  | succ height ih =>
    cases taller with
    | zero => contradiction
    | succ taller =>
      have less : height ≤ taller := Nat.le_of_succ_le_succ higher
      exact nullableBy_mono (fun _ _ => ih less) (fun _ _ => ih less) nullable

/-- A rule that is nullable to a height has a least one. -/
theorem exists_least_height {height : Nat} {id : RuleId}
    (nullable : grammar.nullableTo height id = true) :
    ∃ least < height, ¬ grammar.nullableTo least id = true ∧
      grammar.nullableTo (least + 1) id = true := by
  have never : ¬ grammar.nullableTo 0 id = true := Bool.false_ne_true
  have sometime : ∃ height, grammar.nullableTo height id = true := ⟨height, nullable⟩
  obtain ⟨least, unable, able⟩ :=
    Nat.exists_not_and_succ_of_not_zero_of_exists never sometime
  refine ⟨least, Nat.lt_of_not_le fun higher => ?_, unable, able⟩
  exact unable (nullableTo_mono higher nullable)

/-- A lenient rule is nullable. -/
theorem nullableTo_of_isLenient {id : RuleId} (lenient : (grammar.rule id).isLenient = true) :
    grammar.nullableTo 1 id = true := by
  simp only [nullableTo, nullableBy, lenient, Bool.true_or]

/-- The search finds every rule that is nullable to a height, if nothing that it has followed is
nullable to a lesser one. -/
theorem IsOrdered.nullableWithin_of_nullableTo (ordered : grammar.IsOrdered) {height : Nat}
    {id : RuleId} (nullable : grammar.nullableTo (height + 1) id = true) {followed : List RuleId}
    (others : ∀ other ∈ followed, ¬ grammar.nullableTo height other = true) {steps : Nat}
    (enough : grammar.budget followed id < steps) :
    grammar.nullableWithin steps followed id = true := by
  induction height using Nat.strong_induction_on generalizing id followed steps with
  | _ height ih =>
  cases steps with
  | zero => contradiction
  | succ steps =>
  have spare : grammar.budget followed id ≤ steps := Nat.le_of_lt_succ enough
  rw [nullableWithin_succ]
  refine nullableBy_mono (fun target stands follows => ?_) (fun part member inside => ?_) nullable
  · have new : target ∉ followed := fun member => others target member follows
    rw [if_neg (mt List.contains_iff_mem.mp new)]
    obtain ⟨least, below, unable, able⟩ := exists_least_height follows
    refine ih least below able (fun other member => ?_) ?_
    · rcases List.mem_cons.mp member with rfl | member
      · exact unable
      · exact mt (nullableTo_mono (Nat.le_of_lt below)) (others other member)
    · exact Nat.lt_of_lt_of_le
        (ordered.budget_follow stands new fun other => List.mem_cons) spare
  · cases height with
    | zero => contradiction
    | succ height =>
      refine ih height (Nat.lt_succ_self _) inside (fun other member => ?_) ?_
      · exact mt (nullableTo_mono (Nat.le_succ height)) (others other member)
      · exact Nat.lt_of_lt_of_le (ordered.budget_part followed member) spare

/-- What the search finds in some steps is nullable to as great a height. -/
theorem nullableTo_of_nullableWithin {steps : Nat} {followed : List RuleId} {id : RuleId}
    (found : grammar.nullableWithin steps followed id = true) :
    grammar.nullableTo steps id = true := by
  induction steps generalizing followed id with
  | zero => contradiction
  | succ steps ih =>
    rw [nullableWithin_succ] at found
    refine nullableBy_mono (fun target _ follows => ?_) (fun part _ inside => ih inside) found
    split at follows
    · contradiction
    · exact ih follows

/-- A rule is held to match nothing just if it is nullable to some height. -/
theorem IsOrdered.isNullable_iff (ordered : grammar.IsOrdered) {id : RuleId}
    (inside : id < grammar.size) :
    grammar.isNullable id = true ↔ ∃ height, grammar.nullableTo height id = true := by
  constructor
  · intro held
    exact ⟨_, nullableTo_of_nullableWithin held⟩
  · rintro ⟨height, nullable⟩
    obtain ⟨least, _, _, able⟩ := exists_least_height nullable
    exact ordered.nullableWithin_of_nullableTo able (List.forall_mem_nil _)
      (ordered.budget_lt [] inside)

/-- Whether no rule lifts the negation of the definition whose test it shares. -/
def liftsNoNegation (grammar : Grammar P) : Bool :=
  grammar.rules.toList.all fun rule =>
    match rule.body with
    | .own _ => true
    | .shared definition => rule.behaviour.negate || !(grammar.rule definition).behaviour.negate

/-- A rule that is not turned around and lifts no negation shares the test of a definition that is
not turned around either. -/
theorem negate_of_shared (lifts : grammar.liftsNoNegation = true) {id definition : RuleId}
    (shared : (grammar.rule id).body = .shared definition)
    (plain : (grammar.rule id).behaviour.negate = false) :
    (grammar.rule definition).behaviour.negate = false := by
  rcases grammar.rule_cases id with found | outside
  · have held := List.all_eq_true.mp lifts _ (Array.mem_of_getElem? found).val
    simpa [shared, plain] using held
  · rw [outside] at shared
    contradiction

/-- A rule that is not turned around is nullable if its test is and it lifts no negation. -/
theorem exists_nullableTo_of_testOf (lifts : grammar.liftsNoNegation = true) {id : RuleId}
    (plain : (grammar.rule id).behaviour.negate = false) {height : Nat}
    (empty : (grammar.testOf (grammar.rule id)).emptyBy (grammar.nullableTo height)
      (grammar.nullableTo height) = true) : ∃ height, grammar.nullableTo height id = true := by
  unfold testOf at empty
  split at empty
  · rename_i test own
    refine ⟨height + 1, ?_⟩
    simp only [nullableTo, nullableBy, plain, own, Body.emptyBy, empty, Bool.not_false,
      Bool.and_self, Bool.or_true]
  · rename_i definition shared
    split at empty
    · rename_i test own
      have upright := negate_of_shared lifts shared plain
      have below : grammar.nullableTo (height + 1) definition = true := by
        simp only [nullableTo, nullableBy, upright, own, Body.emptyBy, empty, Bool.not_false,
          Bool.and_self, Bool.or_true]
      refine ⟨height + 2, ?_⟩
      rw [nullableTo]
      simp only [nullableBy, plain, shared, Body.emptyBy, below, Bool.not_false, Bool.and_self,
        Bool.or_true]
    · contradiction

/-- In a grammar in which nothing is shared no negation is lifted. -/
theorem IsNumbered.liftsNoNegation (numbered : grammar.IsNumbered) :
    grammar.liftsNoNegation = true := by
  refine List.all_eq_true.mpr fun rule member => ?_
  obtain ⟨id, found⟩ := List.getElem?_of_mem member
  have stands : grammar.rule id = rule := by
    rw [Grammar.rule, ← Array.getElem?_toList, found, Option.getD_some]
  have own := numbered.own id
  rw [stands] at own
  rw [own]

end Grammar

/-! ## Cursors that stay -/

/-- An answer leads forward, and stays where it started only if something is the case. -/
def Onward (here : Scanner) (answer : Option Scanner) (staying : Prop) : Prop :=
  ∀ next, answer = some next → here.Reaches next ∧ (next.position = here.position → staying)

/-- Whether a pattern that matches nothing in some text also matches the text in which there is
nothing. -/
def Terminal.IsFrank : Terminal → Prop
  | regex _ compiled =>
    ∀ text, compiled.matchLength text = some 0 → (compiled.matchLength []).isSome = true
  | _ => True

/-- Whether every pattern of a grammar that matches nothing in some text also matches the text in
which there is nothing. -/
def Grammar.HasFrankPatterns (grammar : Grammar P) : Prop :=
  ∀ id terminal, grammar.testOf (grammar.rule id) = .terminal terminal → terminal.IsFrank

namespace Scanner

variable {here : Scanner}

/-- A cursor that stays although it should take characters stands at the end. -/
theorem remaining_of_advance {count : Nat} (positive : 0 < count)
    (still : (here.advance count).position = here.position) : here.remaining = [] := by
  have inside := here.inside
  have clamped : min (here.position + count) here.source.length = here.position := still
  have past : here.source.length ≤ here.position := by omega
  exact List.drop_eq_nil_of_le past

/-- Taking a text that is there stays where it is only if the text is empty. -/
theorem advance_onward (text : String) (there : here.remaining = [] → text.toList = []) :
    Onward here (some (here.advance text.length)) (text.isEmpty = true) := by
  intro next found
  obtain rfl := Option.some.inj found
  refine ⟨advance_reaches here _, fun still => ?_⟩
  by_cases positive : 0 < text.length
  · have empty := there (remaining_of_advance positive still)
    rw [← String.length_toList, empty] at positive
    contradiction
  · have zero : text.length = 0 := Nat.eq_zero_of_not_pos positive
    simpa using zero

/-- Taking a character leads on. -/
theorem consume_onward (here : Scanner) : Onward here (here.consume.map Prod.snd) False := by
  intro next found
  obtain ⟨⟨c, taken⟩, consumed, rfl⟩ := Option.map_eq_some_iff.mp found
  refine ⟨consume_reaches consumed, fun still => ?_⟩
  obtain ⟨peeked, seen, same⟩ := Option.map_eq_some_iff.mp consumed
  obtain rfl : here.advance 1 = taken := congrArg Prod.snd same
  have nothing := remaining_of_advance Nat.one_pos still
  obtain ⟨inside, _⟩ := List.getElem?_eq_some_iff.mp seen
  exact absurd inside (Nat.not_lt.mpr (List.drop_eq_nil_iff.mp nothing))

/-- Taking a character that a test accepts leads on. -/
theorem scanWhere_onward (here : Scanner) (accept : Char → Bool) :
    Onward here (here.scanWhere accept) False := by
  intro next found
  refine here.consume_onward next ?_
  unfold scanWhere at found
  unfold consume
  split at found
  · rename_i c peeked
    split at found
    · rw [peeked]
      exact found
    · contradiction
  · contradiction

end Scanner

/-- An answer that never stays leads on whatever staying would mean. -/
theorem Onward.of_false {here : Scanner} {answer : Option Scanner}
    (onward : Onward here answer False) (staying : Prop) : Onward here answer staying :=
  fun next found => ⟨(onward next found).1, fun still => ((onward next found).2 still).elim⟩

/-- A terminal that takes nothing is held to be able to. -/
theorem Terminal.scan_onward {terminal : Terminal} (frank : terminal.IsFrank) (here : Scanner) :
    Onward here (terminal.scan here) (terminal.canBeEmpty = true) := by
  cases terminal with
  | set members => exact (here.scanWhere_onward _).of_false _
  | range first last => exact (here.scanWhere_onward _).of_false _
  | any => exact (here.scanWhere_onward _).of_false _
  | literal text =>
    intro next found
    simp only [scan, Scanner.scanLiteral] at found
    split at found
    · rename_i isPrefix
      refine Scanner.advance_onward text (fun nothing => ?_) next found
      rw [nothing] at isPrefix
      simpa using isPrefix
    · contradiction
  | insensitive text =>
    intro next found
    simp only [scan, Scanner.scanInsensitive] at found
    split at found
    · rename_i isPrefix
      refine Scanner.advance_onward text (fun nothing => ?_) next found
      rw [nothing] at isPrefix
      cases letters : text.toList with
      | nil => rfl
      | cons first later =>
        rw [letters] at isPrefix
        contradiction
    · contradiction
  | regex written compiled =>
    intro next found
    rw [scan, Scanner.scanRegex_eq] at found
    obtain ⟨count, matched, rfl⟩ := Option.map_eq_some_iff.mp found
    refine ⟨Scanner.advance_reaches here count, fun still => ?_⟩
    cases count with
    | zero => exact frank here.remaining matched
    | succ count =>
      rw [Scanner.remaining_of_advance (Nat.succ_pos count) still] at matched
      exact Option.isSome_iff_exists.mpr ⟨_, matched⟩
  | endOfInput =>
    intro next found
    exact ⟨scan_reaches found, fun _ => rfl⟩

/-! ## Derivations that take nothing -/

/-- Whether an iteration of a rule may stay where it started: the rule looks ahead, or its test is
not turned around and nullable to some height. -/
def Grammar.MayStay (grammar : Grammar P) (rule : Occurrence P) : Prop :=
  rule.behaviour.lookahead = true ∨
    (rule.behaviour.negate = false ∧ ∃ height,
      (grammar.testOf rule).emptyBy (grammar.nullableTo height) (grammar.nullableTo height) = true)

/-- Repetition that ends well ends at the cursor it came to, after enough successes. -/
theorem of_tally_eq_some {rule : Occurrence P} {count : Nat} {here next : Scanner}
    (ended : tally rule count here = some next) :
    rule.behaviour.cardinality.minimum ≤ count ∧ here = next := by
  unfold tally at ended
  split at ended
  · rename_i enough
    exact ⟨enough, Option.some.inj ended⟩
  · contradiction

section Derivations

variable {grammar : Grammar P}

mutual
/-- A rule leads forward, and stays where it started only if it is nullable to some height. -/
theorem RuleParse.onward (frank : grammar.HasFrankPatterns)
    (lifts : grammar.liftsNoNegation = true) {id : RuleId} {here : Scanner}
    {answer : Option Scanner} : RuleParse grammar id here answer →
    Onward here answer (∃ height, grammar.nullableTo height id = true)
  | .matched repeated, next, ended => by
    obtain rfl := Option.some.inj ended
    split
    · rename_i lookahead
      refine ⟨.refl here, fun _ => ⟨1, Grammar.nullableTo_of_isLenient ?_⟩⟩
      simp [Occurrence.isLenient, lookahead]
    · rename_i taking
      obtain ⟨reaches, staying⟩ := repeated.onward frank lifts (frank id) _ rfl
      refine ⟨reaches, fun still => ?_⟩
      rcases staying still with enough | lookahead | ⟨plain, height, empty⟩
      · refine ⟨1, Grammar.nullableTo_of_isLenient ?_⟩
        have optional := Nat.le_zero.mp enough
        simp [Occurrence.isLenient, Cardinality.isOptional, optional]
      · contradiction
      · exact Grammar.exists_nullableTo_of_testOf lifts plain empty
  | .recovered repeated pinned, next, ended => by
    obtain rfl := Option.some.inj ended
    refine ⟨.refl here, fun _ => ⟨1, Grammar.nullableTo_of_isLenient ?_⟩⟩
    simp [Occurrence.isLenient, pinned]
  | .failed repeated unpinned, next, ended => nomatch ended

/-- Repetition leads forward, and stays where it started only if it needs no success or an iteration
may stay. -/
theorem RepeatParse.onward (frank : grammar.HasFrankPatterns)
    (lifts : grammar.liftsNoNegation = true) {rule : Occurrence P}
    (subject : ∀ terminal, grammar.testOf rule = .terminal terminal → terminal.IsFrank)
    {count : Nat} {here : Scanner} {answer : Option Scanner} :
    RepeatParse grammar rule count here answer →
    Onward here answer (rule.behaviour.cardinality.minimum ≤ count ∨ grammar.MayStay rule)
  | .full bounded, next, ended => by
    obtain ⟨enough, rfl⟩ := of_tally_eq_some ended
    exact ⟨.refl here, fun _ => .inl enough⟩
  | .failure room once, next, ended => by
    obtain ⟨enough, rfl⟩ := of_tally_eq_some ended
    exact ⟨.refl here, fun _ => .inl enough⟩
  | .standing room once still, next, ended => by
    obtain ⟨_, rfl⟩ := of_tally_eq_some ended
    obtain ⟨reaches, staying⟩ := once.onward frank lifts subject _ rfl
    exact ⟨reaches, fun still => .inr (staying still)⟩
  | .further room once moved later, next, ended => by
    obtain ⟨first, _⟩ := once.onward frank lifts subject _ rfl
    obtain ⟨second, _⟩ := later.onward frank lifts subject next ended
    refine ⟨first.trans second, fun still => ?_⟩
    have back := still ▸ second.forward
    exact absurd (Nat.le_antisymm back first.forward) moved

/-- An iteration leads forward, and stays where it started only if it may. -/
theorem OnceParse.onward (frank : grammar.HasFrankPatterns)
    (lifts : grammar.liftsNoNegation = true) {rule : Occurrence P}
    (subject : ∀ terminal, grammar.testOf rule = .terminal terminal → terminal.IsFrank)
    {here : Scanner} {answer : Option Scanner} : OnceParse grammar rule here answer →
    Onward here answer (grammar.MayStay rule)
  | .plain plain test, next, ended => by
    obtain ⟨reaches, staying⟩ := test.onward frank lifts subject next ended
    exact ⟨reaches, fun still => .inr ⟨plain, staying still⟩⟩
  | .refuted negated test, next, ended => nomatch ended
  | .ahead negated lookahead test, next, ended => by
    obtain rfl := Option.some.inj ended
    exact ⟨.refl here, fun _ => .inl lookahead⟩
  | .taken negated taking test, next, ended => here.consume_onward.of_false _ next ended

/-- A test leads forward, and stays where it started only if it is nullable to some height. -/
theorem TestParse.onward (frank : grammar.HasFrankPatterns)
    (lifts : grammar.liftsNoNegation = true) {test : Test P}
    (subject : ∀ terminal, test = .terminal terminal → terminal.IsFrank)
    {here : Scanner} {answer : Option Scanner} : TestParse grammar test here answer →
    Onward here answer (∃ height,
      test.emptyBy (grammar.nullableTo height) (grammar.nullableTo height) = true)
  | .terminal, next, ended => by
    obtain ⟨reaches, staying⟩ := Terminal.scan_onward (subject _ rfl) here next ended
    exact ⟨reaches, fun still => ⟨0, staying still⟩⟩
  | .reference rule, next, ended => rule.onward frank lifts next ended
  | .group rule, next, ended => rule.onward frank lifts next ended
  | .sequence all, next, ended => all.onward frank lifts next ended
  | .choice first, next, ended => first.onward frank lifts next ended

/-- Parts in order lead forward, and stay where they started only if all are nullable to some
height. -/
theorem AllParse.onward (frank : grammar.HasFrankPatterns)
    (lifts : grammar.liftsNoNegation = true) {parts : List RuleId} {here : Scanner}
    {answer : Option Scanner} : AllParse grammar parts here answer →
    Onward here answer (∃ height, parts.all (grammar.nullableTo height) = true)
  | .nil, next, ended => by
    obtain rfl := Option.some.inj ended
    exact ⟨.refl here, fun _ => ⟨0, rfl⟩⟩
  | .step rule later, next, ended => by
    obtain ⟨first, staying⟩ := rule.onward frank lifts _ rfl
    obtain ⟨second, stayingLater⟩ := later.onward frank lifts next ended
    refine ⟨first.trans second, fun still => ?_⟩
    have stays := Nat.le_antisymm (still ▸ second.forward) first.forward
    obtain ⟨height, nullable⟩ := staying stays
    obtain ⟨laterHeight, nullableLater⟩ := stayingLater (still.trans stays.symm)
    refine ⟨max height laterHeight, List.all_eq_true.mpr fun part member => ?_⟩
    rcases List.mem_cons.mp member with rfl | member
    · exact Grammar.nullableTo_mono (Nat.le_max_left _ _) nullable
    · exact Grammar.nullableTo_mono (Nat.le_max_right _ _)
        (List.all_eq_true.mp nullableLater part member)
  | .failure rule, next, ended => nomatch ended

/-- The first part that succeeds leads forward, and stays where it started only if some part is
nullable to some height. -/
theorem FirstParse.onward (frank : grammar.HasFrankPatterns)
    (lifts : grammar.liftsNoNegation = true) {parts : List RuleId} {here : Scanner}
    {answer : Option Scanner} : FirstParse grammar parts here answer →
    Onward here answer (∃ height, parts.any (grammar.nullableTo height) = true)
  | .nil, next, ended => nomatch ended
  | .success rule, next, ended => by
    obtain ⟨reaches, staying⟩ := rule.onward frank lifts next ended
    refine ⟨reaches, fun still => ?_⟩
    obtain ⟨height, nullable⟩ := staying still
    exact ⟨height, List.any_eq_true.mpr ⟨_, List.mem_cons_self, nullable⟩⟩
  | .other rule later, next, ended => by
    obtain ⟨reaches, staying⟩ := later.onward frank lifts next ended
    refine ⟨reaches, fun still => ?_⟩
    obtain ⟨height, nullable⟩ := staying still
    obtain ⟨part, member, able⟩ := List.any_eq_true.mp nullable
    exact ⟨height, List.any_eq_true.mpr ⟨part, List.mem_cons_of_mem _ member, able⟩⟩
end

/-- A number that no rule has is not nullable to any height. -/
theorem Grammar.lt_size_of_nullableTo {id height : Nat}
    (nullable : grammar.nullableTo height id = true) : id < grammar.size := by
  by_contra outside
  have absent : grammar.rules[id]? = none := Array.getElem?_eq_none (Nat.le_of_not_lt outside)
  have never : grammar.rule id = .never := by rw [Grammar.rule, absent, Option.getD_none]
  cases height with
  | zero => contradiction
  | succ height =>
    rw [Grammar.nullableTo, Grammar.nullableBy, never] at nullable
    contradiction

/-- A rule that ends where it started is held to match nothing. -/
theorem RuleParse.isNullable (ordered : grammar.IsOrdered) (frank : grammar.HasFrankPatterns)
    (lifts : grammar.liftsNoNegation = true) {id : RuleId} {here next : Scanner}
    (parse : RuleParse grammar id here (some next))
    (still : next.position = here.position) : grammar.isNullable id = true := by
  obtain ⟨height, nullable⟩ := (parse.onward frank lifts next rfl).2 still
  have inside : id < grammar.size := Grammar.lt_size_of_nullableTo nullable
  exact (ordered.isNullable_iff inside).mpr ⟨height, nullable⟩

end Derivations

/-! ## Matches that take nothing -/

/-- Whether a terminal that matches somewhere without taking a character is held to be able to. -/
def Terminal.IsHonest (terminal : Terminal) : Prop :=
  ∀ here next, terminal.scan here = some next → next.position = here.position →
    terminal.canBeEmpty = true

/-- Whether every terminal of a grammar is honest. -/
def Grammar.HasHonestTerminals (grammar : Grammar P) : Prop :=
  ∀ id terminal, grammar.testOf (grammar.rule id) = .terminal terminal → terminal.IsHonest

/-- An honest pattern is frank: it can be tried where a text starts. -/
theorem Terminal.IsHonest.isFrank {terminal : Terminal} (honest : terminal.IsHonest) :
    terminal.IsFrank := by
  cases terminal with
  | regex written compiled =>
    intro text matched
    have scanned : (Terminal.regex written compiled).scan ⟨⟨text⟩, 0, Nat.zero_le _⟩ =
        some (Scanner.advance ⟨⟨text⟩, 0, Nat.zero_le _⟩ 0) := by
      rw [Terminal.scan, Scanner.scanRegex_eq]
      change (compiled.matchLength text).map _ = _
      rw [matched, Option.map_some]
    have still : (Scanner.advance ⟨⟨text⟩, 0, Nat.zero_le _⟩ 0).position = 0 := Nat.zero_min _
    exact honest _ _ scanned still
  | _ => trivial

/-- A frank terminal is honest. -/
theorem Terminal.IsFrank.isHonest {terminal : Terminal} (frank : terminal.IsFrank) :
    terminal.IsHonest :=
  fun here next scanned => (scan_onward frank here next scanned).2

/-- Whether a test that is a pattern matches the text in which there is nothing. -/
def Test.matchesNothing : Test P → Bool
  | .terminal (.regex _ compiled) => (compiled.matchLength []).isSome
  | _ => true

/-- Patterns that match the text in which there is nothing are frank. -/
theorem Grammar.hasFrankPatterns_of_matchesNothing {grammar : Grammar P}
    (all : grammar.allTests Test.matchesNothing = true) : grammar.HasFrankPatterns := by
  intro id terminal test
  have held := condition_testOf all rfl id
  rw [test] at held
  cases terminal with
  | regex written compiled => exact fun _ _ => held
  | _ => trivial

variable [Procedures P]

/-- A rule that matches ends where the rules of parsing expressions say. -/
theorem ruleParse_of_matchRule {β : Type} [Builder β] (ledger : Ledger β) {grammar : Grammar P}
    (free : grammar.isProcedureFree = true) {id : RuleId} {state : State β}
    (memory : (finalVerdict grammar).Backs state.source state.memory)
    (matched : (matchRule grammar id state).1 = .matched) :
    RuleParse grammar id state.scanner (some (matchRule grammar id state).2.scanner) := by
  have obeys := descend_obeys ledger free (state.depthBound grammar) id state memory
  change Obeys ledger grammar _ _ id state (matchRule grammar id state) at obeys
  generalize matchRule grammar id state = ended at obeys matched
  cases obeys with
  | answered verdict known answers =>
    refine ruleParse_iff_finalVerdict.mpr ⟨verdict, known, ?_⟩
    have told := answers.outcome
    rw [matched] at told
    have on : (verdict.reply grammar (grammar.rule id) state.position).matched = true := by
      by_contra off
      rw [if_neg off] at told
      contradiction
    rw [answers.scanner]
    exact if_pos on
  | limited limit => contradiction
  | diverged unknown => contradiction

/-- A rule of a built grammar that matches without taking a character, whatever the source and the
state, is held to match nothing, if no rule runs a procedure, the terminals are honest and no rule
lifts the negation of the definition whose test it shares. -/
theorem Draft.matchRule_isNullable {draft : Draft P} {grammar : Grammar P}
    (built : draft.build = .ok grammar) (free : grammar.isProcedureFree = true)
    (honest : grammar.HasHonestTerminals) (lifts : grammar.liftsNoNegation = true) {β : Type}
    [Builder β] (ledger : Ledger β) (id : RuleId) (state : State β)
    (memory : (finalVerdict grammar).Backs state.source state.memory)
    (matched : (matchRule grammar id state).1 = .matched)
    (still : (matchRule grammar id state).2.position = state.position) :
    grammar.isNullable id = true := by
  have frank : grammar.HasFrankPatterns := fun id terminal test => (honest id terminal test).isFrank
  have parse := ruleParse_of_matchRule ledger free memory matched
  exact parse.isNullable (isOrdered_of_build built) frank lifts still

/-- A word up to the end of the input, which is looked for under a behaviour of its own. -/
def Draft.ending : Draft where
  definitions := [("end", Rule.endOfInput.skip)]
  root := some (.sequence
    [(Rule.literal "x").optional, .ofExpression (.reference "end" (some .scanning) none)])

/-- The end that is looked for under a behaviour of its own matches where there is no text, and is
held to match nothing. -/
theorem Draft.matchRule_isNullable_ending :
    ∃ grammar, Draft.ending.build = .ok grammar ∧
      (matchRule grammar 3 (.initial ⟨[]⟩ .default NodeStack.initial)).1 = .matched ∧
      grammar.isNullable 3 = true := by
  have checked : (match Draft.ending.build with
      | .ok grammar => grammar.isProcedureFree && grammar.liftsNoNegation &&
          grammar.allTests Test.matchesNothing &&
          decide ((matchRule grammar 3 (.initial ⟨[]⟩ .default NodeStack.initial)).1 = .matched) &&
          decide ((matchRule grammar 3 (.initial ⟨[]⟩ .default NodeStack.initial)).2.position = 0)
      | .error _ => false) = true := by
    decide +kernel
  split at checked
  · rename_i grammar built
    simp only [Bool.and_eq_true, decide_eq_true_eq] at checked
    obtain ⟨⟨⟨⟨free, lifts⟩, all⟩, matched⟩, still⟩ := checked
    have honest : grammar.HasHonestTerminals := fun id terminal test =>
      (Grammar.hasFrankPatterns_of_matchesNothing all id terminal test).isHonest
    exact ⟨grammar, built, matched, Draft.matchRule_isNullable built free honest lifts
      NodeStack.ledger 3 _ (Oracle.backs_initial _ _ _ _) matched still⟩
  · contradiction

/-- A definition that goes on behind the end of the input, for which it lifts the negation of
another. -/
def Draft.lifting : Draft where
  definitions :=
    [("inside", Rule.endOfInput.negate),
      ("rest", .sequence
        [.ofExpression (.reference "inside" (some .scanning) none), .reference "rest"])]
  root := some (.sequence [.literal "x", .reference "rest"])

/-- A rule that lifts the negation of the definition whose test it shares matches without taking a
character, and is not held to: its grammar is built although the definition behind it reaches
itself, and matching the root never ends. -/
theorem Draft.lifting_not_isNullable :
    ∃ grammar, Draft.lifting.build = .ok grammar ∧ grammar.isProcedureFree = true ∧
      grammar.HasHonestTerminals ∧
      (matchRule grammar 2 (.initial ⟨[]⟩ .default NodeStack.initial)).1 = .matched ∧
      (matchRule grammar 2 (.initial ⟨[]⟩ .default NodeStack.initial)).2.position = 0 ∧
      grammar.isNullable 2 = false ∧
      (matchRule grammar grammar.root (.initial ⟨['x']⟩ .default NodeStack.initial)).1 =
        .failed .divergence := by
  have checked : (match Draft.lifting.build with
      | .ok grammar => grammar.isProcedureFree && grammar.allTests Test.matchesNothing &&
          decide ((matchRule grammar 2 (.initial ⟨[]⟩ .default NodeStack.initial)).1 = .matched) &&
          decide
            ((matchRule grammar 2 (.initial ⟨[]⟩ .default NodeStack.initial)).2.position = 0) &&
          !grammar.isNullable 2 &&
          decide ((matchRule grammar grammar.root
            (.initial ⟨['x']⟩ .default NodeStack.initial)).1 = .failed .divergence)
      | .error _ => false) = true := by
    decide +kernel
  split at checked
  · rename_i grammar built
    simp only [Bool.and_eq_true, Bool.not_eq_true', decide_eq_true_eq] at checked
    obtain ⟨⟨⟨⟨⟨free, all⟩, matched⟩, still⟩, unheld⟩, diverged⟩ := checked
    have honest : grammar.HasHonestTerminals := fun id terminal test =>
      (Grammar.hasFrankPatterns_of_matchesNothing all id terminal test).isHonest
    exact ⟨grammar, built, free, honest, matched, still, unheld, diverged⟩
  · contradiction

end Packrat
