import Mathlib.Data.Fintype.Card
import Mathlib.Logic.Relation
import Packrat.Proofs.Nullability

/-!
# Accepted grammars terminate

A rule can come back to itself at one cursor only through rules that stand at the front of each
other's tests: `Fronts`. The search for left recursion finds a way from a definition to itself
exactly if there is one (`leftRecursion?_eq_none_iff`), and every way in a circle passes a
definition, so in an accepted grammar the rules at the front of each other are well-founded
(`wellFounded_fronts`). As every other call is made further on in the source, every rule has an
answer at every cursor (`exists_ruleParse`), and matching never runs out of depth
(`Draft.build_terminates`).
-/

namespace Packrat

variable {P : Type}

open Relation (TransGen ReflTransGen)

namespace Grammar

variable {grammar : Grammar P}

/-! ## Rules at the front -/

/-- The rules that a test may match where it starts itself. -/
def front (grammar : Grammar P) : Test P → List RuleId
  | .reference target => [target]
  | .group inner => [inner]
  | .sequence parts => leading grammar.isNullable parts
  | .choice parts => parts
  | .terminal _ => []
  | .procedure _ => []

/-- One rule may match another where it starts itself. -/
def Fronts (grammar : Grammar P) (caller callee : RuleId) : Prop :=
  match (grammar.rule caller).body with
  | .own test => callee ∈ grammar.front test
  | .shared definition => callee = definition

/-- The parts up to the first that has to take a character are parts. -/
theorem mem_of_mem_leading {nullable : RuleId → Bool} {parts : List RuleId} {id : RuleId}
    (member : id ∈ leading nullable parts) : id ∈ parts := by
  induction parts with
  | nil => exact member
  | cons part later ih =>
    unfold leading at member
    rcases List.mem_cons.mp member with rfl | member
    · exact List.mem_cons_self
    · split at member
      · exact List.mem_cons_of_mem _ (ih member)
      · contradiction

/-- What stands at the front of a rule is what it stands for, or a part. -/
theorem Fronts.cases {caller callee : RuleId} (fronts : grammar.Fronts caller callee) :
    (grammar.rule caller).target? = some callee ∨ callee ∈ (grammar.rule caller).parts := by
  unfold Fronts at fronts
  unfold Occurrence.target? Occurrence.parts
  cases body : (grammar.rule caller).body with
  | shared definition =>
    rw [body] at fronts
    exact .inl (congrArg some (Eq.symm fronts))
  | own test =>
    rw [body] at fronts
    cases test with
    | reference target => exact .inl (congrArg some (List.mem_singleton.mp fronts).symm)
    | group inner => exact .inr fronts
    | sequence parts => exact .inr (mem_of_mem_leading fronts)
    | choice parts => exact .inr fronts
    | terminal terminal => contradiction
    | procedure steps => contradiction

/-- A rule at the front of another is in the table. -/
theorem IsOrdered.fronts_lt (ordered : grammar.IsOrdered) {caller callee : RuleId}
    (fronts : grammar.Fronts caller callee) : callee < grammar.size := by
  rcases fronts.cases with stands | member
  · exact ordered.target_lt stands
  · exact (ordered.contains member).2.1

/-! ## The search for a way back -/

/-- Whether a rule leads to another by way of the front in at most a number of steps. -/
def LeadsTo (grammar : Grammar P) (start : RuleId) : Nat → RuleId → Prop
  | 0, _ => False
  | distance + 1, id =>
    ∃ callee, grammar.Fronts id callee ∧ (callee = start ∨ grammar.LeadsTo start distance callee)

/-- A rule that leads to another in some steps does so in more. -/
theorem LeadsTo.mono {start : RuleId} {distance further : Nat} (farther : distance ≤ further)
    {id : RuleId} (leads : grammar.LeadsTo start distance id) :
    grammar.LeadsTo start further id := by
  induction distance generalizing further id with
  | zero => exact leads.elim
  | succ distance ih =>
    cases further with
    | zero => contradiction
    | succ further =>
      obtain ⟨callee, fronts, reached⟩ := leads
      exact ⟨callee, fronts, reached.imp_right (ih (Nat.le_of_succ_le_succ farther))⟩

/-- A rule that leads to another has a least number of steps to it. -/
theorem LeadsTo.exists_least {start : RuleId} {distance : Nat} {id : RuleId}
    (leads : grammar.LeadsTo start distance id) :
    ∃ least < distance, ¬ grammar.LeadsTo start least id ∧
      grammar.LeadsTo start (least + 1) id := by
  have sometime : ∃ distance, grammar.LeadsTo start distance id := ⟨distance, leads⟩
  obtain ⟨least, unable, able⟩ :=
    Nat.exists_not_and_succ_of_not_zero_of_exists (fun never => never) sometime
  exact ⟨least, Nat.lt_of_not_le fun farther => unable (leads.mono farther), unable, able⟩

/-- A search that finds nothing at a rule finds nothing at the rules at its front, unless it has
followed them already. -/
theorem chainWithin_front {start id : RuleId} {steps : Nat} {followed : List RuleId}
    (nothing : grammar.chainWithin start (steps + 1) followed id = none) {callee : RuleId}
    (fronts : grammar.Fronts id callee) :
    ((grammar.rule id).target? = some callee ∧ callee ≠ start ∧
      (callee ∈ followed ∨ grammar.chainWithin start steps (followed ++ [callee]) callee = none)) ∨
    (callee ∈ (grammar.rule id).parts ∧
      grammar.chainWithin start steps followed callee = none) := by
  unfold Fronts at fronts
  unfold chainWithin at nothing
  unfold Occurrence.target? Occurrence.parts
  have follow : ∀ {target : RuleId}, (if target = start then some (followed ++ [target])
      else if followed.contains target then none
      else grammar.chainWithin start steps (followed ++ [target]) target) = none →
      target ≠ start ∧ (target ∈ followed ∨
        grammar.chainWithin start steps (followed ++ [target]) target = none) := by
    intro target unfound
    split at unfound
    · contradiction
    · rename_i different
      split at unfound
      · rename_i contained
        exact ⟨different, .inl (List.contains_iff_mem.mp contained)⟩
      · exact ⟨different, .inr unfound⟩
  cases body : (grammar.rule id).body with
  | shared definition =>
    rw [body] at fronts nothing
    have same : callee = definition := fronts
    exact .inl ⟨congrArg some same.symm, same ▸ follow nothing⟩
  | own test =>
    rw [body] at fronts nothing
    cases test with
    | reference target =>
      have same : callee = target := List.mem_singleton.mp fronts
      exact .inl ⟨congrArg some same.symm, same ▸ follow nothing⟩
    | group inner =>
      have same : callee = inner := List.mem_singleton.mp fronts
      exact .inr ⟨fronts, same ▸ nothing⟩
    | sequence parts =>
      exact .inr ⟨mem_of_mem_leading fronts, List.findSome?_eq_none_iff.mp nothing callee fronts⟩
    | choice parts => exact .inr ⟨fronts, List.findSome?_eq_none_iff.mp nothing callee fronts⟩
    | terminal terminal => contradiction
    | procedure steps => contradiction

/-- The search finds a way to a definition from every rule that leads to it in some steps, if none
of the rules that it has followed does in fewer. -/
theorem IsOrdered.chainWithin_ne_none (ordered : grammar.IsOrdered) {start : RuleId}
    (isDefinition : start < grammar.names.length) {distance : Nat} {id : RuleId}
    (leads : grammar.LeadsTo start (distance + 1) id) {followed : List RuleId}
    (others : ∀ other ∈ followed, other ≠ start → ¬ grammar.LeadsTo start distance other)
    {steps : Nat} (enough : grammar.budget followed id < steps) :
    grammar.chainWithin start steps followed id ≠ none := by
  induction distance using Nat.strong_induction_on generalizing id followed steps with
  | _ distance ih =>
  cases steps with
  | zero => contradiction
  | succ steps =>
  have spare : grammar.budget followed id ≤ steps := Nat.le_of_lt_succ enough
  intro nothing
  obtain ⟨callee, fronts, reached⟩ := leads
  rcases chainWithin_front nothing fronts with
    ⟨stands, different, searched⟩ | ⟨member, searched⟩
  · have onward := reached.resolve_left different
    have new : callee ∉ followed := fun member => others callee member different onward
    have searched := searched.resolve_left new
    obtain ⟨least, below, unable, able⟩ := onward.exists_least
    refine ih least below able (fun other member otherwise => ?_) ?_ searched
    · rcases List.mem_append.mp member with member | member
      · exact mt (LeadsTo.mono (Nat.le_of_lt below)) (others other member otherwise)
      · exact List.mem_singleton.mp member ▸ unable
    · refine Nat.lt_of_lt_of_le (ordered.budget_follow stands new fun other => ?_) spare
      rw [List.mem_append, List.mem_singleton, or_comm]
  · have different : callee ≠ start := fun same =>
      Nat.not_lt.mpr (ordered.contains member).1 (same ▸ isDefinition)
    have onward := reached.resolve_left different
    cases distance with
    | zero => exact onward
    | succ distance =>
      refine ih distance (Nat.lt_succ_self _) onward (fun other member otherwise => ?_) ?_ searched
      · exact mt (LeadsTo.mono (Nat.le_succ distance)) (others other member otherwise)
      · exact Nat.lt_of_lt_of_le (ordered.budget_part followed member) spare

/-- A rule at which the search finds a way leads to where it goes. -/
theorem leadsTo_of_chainWithin {start id : RuleId} {steps : Nat} {followed chain : List RuleId}
    (found : grammar.chainWithin start steps followed id = some chain) :
    grammar.LeadsTo start steps id := by
  induction steps generalizing id followed chain with
  | zero => contradiction
  | succ steps ih =>
    unfold chainWithin at found
    have follow : ∀ {target : RuleId}, (if target = start then some (followed ++ [target])
        else if followed.contains target then none
        else grammar.chainWithin start steps (followed ++ [target]) target) = some chain →
        target = start ∨ grammar.LeadsTo start steps target := by
      intro target found
      split at found
      · rename_i same
        exact .inl same
      · split at found
        · contradiction
        · exact .inr (ih found)
    have among : ∀ {parts : List RuleId},
        parts.findSome? (grammar.chainWithin start steps followed) = some chain →
        ∃ part ∈ parts, grammar.LeadsTo start steps part := by
      intro parts found
      obtain ⟨part, member, searched⟩ := List.exists_of_findSome?_eq_some found
      exact ⟨part, member, ih searched⟩
    change ∃ callee, grammar.Fronts id callee ∧ _
    unfold Fronts
    cases body : (grammar.rule id).body with
    | shared definition =>
      rw [body] at found
      exact ⟨definition, rfl, follow found⟩
    | own test =>
      rw [body] at found
      cases test with
      | reference target => exact ⟨target, List.mem_singleton.mpr rfl, follow found⟩
      | group inner => exact ⟨inner, List.mem_singleton.mpr rfl, .inr (ih found)⟩
      | sequence parts =>
        obtain ⟨part, member, leads⟩ := among found
        exact ⟨part, member, .inr leads⟩
      | choice parts =>
        obtain ⟨part, member, leads⟩ := among found
        exact ⟨part, member, .inr leads⟩
      | terminal terminal => contradiction
      | procedure steps => contradiction

/-! ## No way in a circle -/

/-- The search finds no way from a definition to itself just if the definition does not lead to
itself. -/
theorem IsOrdered.leftChain?_eq_none_iff (ordered : grammar.IsOrdered) {definition : RuleId}
    (isDefinition : definition < grammar.names.length) :
    grammar.leftChain? definition = none ↔
      ∀ distance, ¬ grammar.LeadsTo definition distance definition := by
  constructor
  · intro nothing distance leads
    obtain ⟨least, _, _, able⟩ := leads.exists_least
    refine ordered.chainWithin_ne_none isDefinition able
      (fun other member different => ?_) ?_ nothing
    · exact absurd (List.mem_singleton.mp member) different
    · exact ordered.budget_lt _ (Nat.lt_of_lt_of_le isDefinition ordered.names_le)
  · intro never
    cases found : grammar.leftChain? definition with
    | none => rfl
    | some chain => exact absurd (leadsTo_of_chainWithin found) (never _)

/-- No left recursion is found just if no chain is found for any definition. -/
theorem leftRecursion?_eq_none_iff (grammar : Grammar P) :
    grammar.leftRecursion? = none ↔
      ∀ definition < grammar.names.length, grammar.leftChain? definition = none := by
  simp only [leftRecursion?, List.findSome?_eq_none_iff, List.mem_range, Option.map_eq_none_iff]

/-- A grammar is free of left recursion just if no definition leads to itself. -/
theorem IsOrdered.leftRecursion?_eq_none_iff (ordered : grammar.IsOrdered) :
    grammar.leftRecursion? = none ↔ ∀ definition < grammar.names.length,
      ∀ distance, ¬ grammar.LeadsTo definition distance definition := by
  rw [grammar.leftRecursion?_eq_none_iff]
  exact forall₂_congr fun definition isDefinition => ordered.leftChain?_eq_none_iff isDefinition

/-- A way through the front has a number of steps. -/
theorem exists_leadsTo {start id : RuleId} (way : TransGen grammar.Fronts id start) :
    ∃ distance, grammar.LeadsTo start distance id := by
  induction way using TransGen.head_induction_on with
  | single fronts => exact ⟨1, start, fronts, .inl rfl⟩
  | head fronts _ ih =>
    obtain ⟨distance, leads⟩ := ih
    exact ⟨distance + 1, _, fronts, .inr leads⟩

/-- A way through the front goes further down, or passes a definition. -/
theorem IsOrdered.rank_or_definition (ordered : grammar.IsOrdered) {first last : RuleId}
    (way : TransGen grammar.Fronts first last) :
    grammar.rank last < grammar.rank first ∨
      ∃ definition < grammar.names.length, TransGen grammar.Fronts first definition ∧
        ReflTransGen grammar.Fronts definition last := by
  have step : ∀ {caller callee}, grammar.Fronts caller callee →
      callee < grammar.names.length ∨ grammar.rank callee < grammar.rank caller := by
    intro caller callee fronts
    rcases fronts.cases with stands | member
    · exact (ordered.target stands).imp_right And.right
    · exact .inr (ordered.contains member).2.2
  induction way with
  | single fronts =>
    rcases step fronts with isDefinition | lower
    · exact .inr ⟨_, isDefinition, .single fronts, .refl⟩
    · exact .inl lower
  | tail way fronts ih =>
    rcases ih with lower | ⟨definition, isDefinition, before, after⟩
    · rcases step fronts with isDefinition | further
      · exact .inr ⟨_, isDefinition, way.tail fronts, .refl⟩
      · exact .inl (Nat.lt_trans further lower)
    · exact .inr ⟨definition, isDefinition, before, after.tail fronts⟩

/-- No way through the front of an accepted grammar is a circle. -/
theorem IsOrdered.not_transGen_self (ordered : grammar.IsOrdered)
    (accepted : grammar.leftRecursion? = none) (id : RuleId) :
    ¬ TransGen grammar.Fronts id id := by
  intro circle
  rcases ordered.rank_or_definition circle with lower | ⟨definition, isDefinition, before, after⟩
  · exact Nat.lt_irrefl _ lower
  · obtain ⟨distance, leads⟩ := exists_leadsTo (TransGen.trans_right after before)
    exact ordered.leftRecursion?_eq_none_iff.mp accepted definition isDefinition distance leads

/-- The rules of an accepted grammar at the front of each other are well-founded. -/
theorem IsOrdered.wellFounded_fronts (ordered : grammar.IsOrdered)
    (accepted : grammar.leftRecursion? = none) :
    WellFounded fun callee caller => grammar.Fronts caller callee := by
  let Below (callee caller : Fin grammar.size) : Prop := TransGen grammar.Fronts caller callee
  have transitive : IsTrans (Fin grammar.size) Below :=
    ⟨fun _ _ _ lower upper => upper.trans lower⟩
  have irreflexive : Std.Irrefl Below := ⟨fun id => ordered.not_transGen_self accepted id⟩
  have wellFounded : WellFounded Below := Finite.wellFounded_of_trans_of_irrefl Below
  have inTable : ∀ id : Fin grammar.size,
      Acc (fun callee caller => grammar.Fronts caller callee) id.val := by
    intro id
    induction id using wellFounded.induction with
    | _ id ih =>
      refine ⟨_, fun callee fronts => ?_⟩
      exact ih ⟨callee, ordered.fronts_lt fronts⟩ (.single fronts)
  exact ⟨fun id => ⟨_, fun callee fronts => inTable ⟨callee, ordered.fronts_lt fronts⟩⟩⟩

end Grammar

/-! ## Every rule has an answer -/

section Totality

variable {grammar : Grammar P}

/-- Every rule has an answer at every cursor that lies ahead. -/
def AnswersAhead (grammar : Grammar P) (here : Scanner) : Prop :=
  ∀ id next, here.Reaches next → here.position < next.position →
    ∃ answer, RuleParse grammar id next answer

/-- What has answers ahead of a cursor has answers ahead of every later one. -/
theorem AnswersAhead.later {here next : Scanner} (ahead : AnswersAhead grammar here)
    (reaches : here.Reaches next) : AnswersAhead grammar next :=
  fun id last further beyond =>
    ahead id last (reaches.trans further) (Nat.lt_of_le_of_lt reaches.forward beyond)

/-- Parts in order have an answer if the leading ones have one here and all rules ahead. -/
theorem exists_allParse (numbered : grammar.IsNumbered) (frank : grammar.HasFrankPatterns)
    {here : Scanner} (ahead : AnswersAhead grammar here) {parts : List RuleId}
    (fronts : ∀ part ∈ Grammar.leading grammar.isNullable parts,
      ∃ answer, RuleParse grammar part here answer) :
    ∃ answer, AllParse grammar parts here answer := by
  induction parts generalizing here with
  | nil => exact ⟨_, .nil⟩
  | cons id later ih =>
    obtain ⟨answer, parse⟩ := fronts id List.mem_cons_self
    cases answer with
    | none => exact ⟨_, .failure parse⟩
    | some next =>
      obtain ⟨reaches, _⟩ := parse.onward frank numbered.liftsNoNegation next rfl
      have frontsLater : ∀ part ∈ Grammar.leading grammar.isNullable later,
          ∃ answer, RuleParse grammar part next answer := by
        intro part member
        by_cases still : next.position = here.position
        · obtain rfl : next = here := Scanner.eq_of_position reaches.source still
          refine fronts part (List.mem_cons_of_mem _ ?_)
          have nullable :=
            parse.isNullable numbered.toIsOrdered frank numbered.liftsNoNegation still
          rwa [if_pos nullable]
        · have beyond : here.position < next.position :=
            Nat.lt_of_le_of_ne reaches.forward (Ne.symm still)
          exact ahead part next reaches beyond
      obtain ⟨answer, rest⟩ := ih (ahead.later reaches) frontsLater
      exact ⟨_, .step parse rest⟩

/-- The first part that succeeds gives an answer if all parts have one. -/
theorem exists_firstParse {here : Scanner} {parts : List RuleId}
    (fronts : ∀ part ∈ parts, ∃ answer, RuleParse grammar part here answer) :
    ∃ answer, FirstParse grammar parts here answer := by
  induction parts with
  | nil => exact ⟨_, .nil⟩
  | cons id later ih =>
    obtain ⟨answer, parse⟩ := fronts id List.mem_cons_self
    cases answer with
    | some next => exact ⟨_, .success parse⟩
    | none =>
      obtain ⟨answer, rest⟩ := ih fun part member => fronts part (List.mem_cons_of_mem _ member)
      exact ⟨_, .other parse rest⟩

/-- The test of a rule has an answer if the rules at its front have one here and all rules ahead. -/
theorem exists_testParse (numbered : grammar.IsNumbered) (frank : grammar.HasFrankPatterns)
    (free : grammar.isProcedureFree = true) {id : RuleId} {here : Scanner}
    (ahead : AnswersAhead grammar here)
    (fronts : ∀ callee, grammar.Fronts id callee → ∃ answer, RuleParse grammar callee here answer) :
    ∃ answer, TestParse grammar (grammar.testOf (grammar.rule id)) here answer := by
  have noProcedure := Grammar.testOf_isNoProcedure free id
  unfold Grammar.Fronts at fronts
  rw [numbered.own id] at fronts
  generalize grammar.testOf (grammar.rule id) = test at noProcedure fronts
  cases test with
  | terminal terminal => exact ⟨_, .terminal⟩
  | reference target =>
    obtain ⟨answer, parse⟩ := fronts target (List.mem_singleton.mpr rfl)
    exact ⟨answer, .reference parse⟩
  | group inner =>
    obtain ⟨answer, parse⟩ := fronts inner (List.mem_singleton.mpr rfl)
    exact ⟨answer, .group parse⟩
  | sequence parts =>
    obtain ⟨answer, all⟩ := exists_allParse numbered frank ahead fronts
    exact ⟨answer, .sequence all⟩
  | choice parts =>
    obtain ⟨answer, first⟩ := exists_firstParse fronts
    exact ⟨answer, .choice first⟩
  | procedure steps => contradiction

/-- An iteration has an answer if the test has one. -/
theorem exists_onceParse {rule : Occurrence P} {here : Scanner}
    (tested : ∃ answer, TestParse grammar (grammar.testOf rule) here answer) :
    ∃ answer, OnceParse grammar rule here answer := by
  obtain ⟨answer, test⟩ := tested
  cases negated : rule.behaviour.negate with
  | false => exact ⟨answer, .plain negated test⟩
  | true =>
    cases answer with
    | some next => exact ⟨_, .refuted negated test⟩
    | none =>
      cases lookahead : rule.behaviour.lookahead with
      | true => exact ⟨_, .ahead negated lookahead test⟩
      | false => exact ⟨_, .taken negated lookahead test⟩

/-- Repetition has an answer if the test has one here and at every cursor ahead: each time it goes
on, less of the source is left. -/
theorem exists_repeatParse (frank : grammar.HasFrankPatterns)
    (lifts : grammar.liftsNoNegation = true) {id : RuleId} {here : Scanner}
    (tested : ∀ next, here.Reaches next →
      ∃ answer, TestParse grammar (grammar.testOf (grammar.rule id)) next answer)
    {count : Nat}
    (within : ∀ bound, (grammar.rule id).behaviour.cardinality.maximum = some bound →
      count ≤ bound) :
    ∃ answer, RepeatParse grammar (grammar.rule id) count here answer := by
  induction remains : here.source.length - here.position using Nat.strong_induction_on
    generalizing here count with
  | _ left ih =>
  by_cases full : (grammar.rule id).behaviour.cardinality.maximum = some count
  · exact ⟨_, .full full⟩
  have room : HasRoom (grammar.rule id) count := fun bound bounded =>
    Nat.lt_of_le_of_ne (within bound bounded) fun same => full (same ▸ bounded)
  obtain ⟨answer, once⟩ := exists_onceParse (tested here (.refl here))
  cases answer with
  | none => exact ⟨_, .failure room once⟩
  | some next =>
    by_cases still : next.position = here.position
    · exact ⟨_, .standing room once still⟩
    · obtain ⟨reaches, _⟩ := once.onward frank lifts (frank id) next rfl
      have less : next.source.length - next.position < left :=
        remains ▸ reaches.remaining_lt still
      obtain ⟨answer, later⟩ := ih _ less (fun last further => tested last (reaches.trans further))
        room rfl
      exact ⟨answer, .further room once still later⟩

/-- A rule has an answer if the rules at its front have one here and all rules ahead. -/
theorem exists_ruleParse_of_fronts (numbered : grammar.IsNumbered)
    (frank : grammar.HasFrankPatterns) (free : grammar.isProcedureFree = true) {id : RuleId}
    {here : Scanner} (ahead : AnswersAhead grammar here)
    (fronts : ∀ callee, grammar.Fronts id callee → ∃ answer, RuleParse grammar callee here answer) :
    ∃ answer, RuleParse grammar id here answer := by
  have tested : ∀ next, here.Reaches next →
      ∃ answer, TestParse grammar (grammar.testOf (grammar.rule id)) next answer := by
    intro next reaches
    refine exists_testParse numbered frank free (ahead.later reaches) fun callee front => ?_
    by_cases still : next.position = here.position
    · obtain rfl : next = here := Scanner.eq_of_position reaches.source still
      exact fronts callee front
    · have beyond : here.position < next.position :=
        Nat.lt_of_le_of_ne reaches.forward (Ne.symm still)
      exact ahead callee next reaches beyond
  obtain ⟨answer, repeated⟩ :=
    exists_repeatParse frank numbered.liftsNoNegation tested fun _ _ => Nat.zero_le _
  cases answer with
  | some stop => exact ⟨_, .matched repeated⟩
  | none =>
    cases pinned : (grammar.rule id).annotations.pinned with
    | true => exact ⟨_, .recovered repeated pinned⟩
    | false => exact ⟨_, .failed repeated pinned⟩

/-- Every rule of an accepted grammar has an answer at every cursor. -/
theorem exists_ruleParse (numbered : grammar.IsNumbered) (accepted : grammar.leftRecursion? = none)
    (frank : grammar.HasFrankPatterns) (free : grammar.isProcedureFree = true) (id : RuleId)
    (here : Scanner) : ∃ answer, RuleParse grammar id here answer := by
  induction remains : here.source.length - here.position using Nat.strong_induction_on
    generalizing id here with
  | _ left further =>
  have ahead : AnswersAhead grammar here := by
    intro other next reaches beyond
    refine further _ ?_ other next rfl
    have inside := next.inside
    rw [reaches.source] at inside ⊢
    omega
  induction id using (numbered.wellFounded_fronts accepted).induction with
  | _ id ih => exact exists_ruleParse_of_fronts numbered frank free ahead ih

end Totality

/-! ## Matching ends -/

variable [Procedures P]

/-- Matching a rule that has an answer does not go deeper than the bound on calls. -/
theorem RuleParse.matchRule_ne_divergence {β : Type} [Builder β] (ledger : Ledger β)
    {grammar : Grammar P} (free : grammar.isProcedureFree = true) {id : RuleId} {state : State β}
    (memory : (finalVerdict grammar).Backs state.source state.memory) {answer : Option Scanner}
    (parse : RuleParse grammar id state.scanner answer) :
    (matchRule grammar id state).1 ≠ .failed .divergence := by
  intro diverged
  obtain ⟨result, known, _⟩ := ruleParse_iff_finalVerdict.mp parse
  have deep : finalDepth grammar state.source ≤ state.depthBound grammar := Nat.le_add_right _ _
  have obeys := descend_obeys ledger free (state.depthBound grammar) id state memory
  change Obeys ledger grammar _ _ id state (matchRule grammar id state) at obeys
  generalize matchRule grammar id state = ended at obeys diverged
  cases obeys with
  | answered verdict _ answers =>
    rw [answers.outcome] at diverged
    split at diverged <;> contradiction
  | limited limit => nomatch diverged
  | diverged unknown =>
    rw [verdict_eq_final deep id state.scanner rfl, known] at unknown
    contradiction

/-- Matching the rules of a grammar that was built ends, if no rule runs a procedure, nothing is
shared and every pattern is frank: at every cursor there is an answer, derived in finitely many
steps by the rules of parsing expressions, and from no state whose cache remembers only verdicts do
rules call each other deeper than the bound. -/
theorem Draft.build_terminates {draft : Draft P} {grammar : Grammar P}
    (built : draft.build = .ok grammar) (free : grammar.isProcedureFree = true)
    (unshared : grammar.isUnshared = true) (frank : grammar.HasFrankPatterns) :
    (∀ id here, ∃ answer, RuleParse grammar id here answer) ∧
      ∀ {β : Type} [Builder β] (_ : Ledger β) (id : RuleId) (state : State β),
        (finalVerdict grammar).Backs state.source state.memory →
          (matchRule grammar id state).1 ≠ .failed .divergence := by
  have numbered := isNumbered_of_build built unshared
  obtain ⟨_, accepted⟩ := isNumbered_rules_of_build built
  have total := exists_ruleParse numbered accepted frank free
  refine ⟨total, fun ledger id state memory => ?_⟩
  obtain ⟨answer, parse⟩ := total id state.scanner
  exact parse.matchRule_ne_divergence ledger free memory

/-- Lists in brackets, one in another, and runs of a letter in them that may be empty. The closing
bracket is recovered if it is missing. -/
def Draft.nested : Draft where
  definitions :=
    [("list",
        .sequence [.literal "(", (Rule.reference "item").zeroOrMore, (Rule.literal ")").pin]),
      ("item",
        .choice
          [.reference "list",
            (Rule.terminal (.regex "a*" ⟨Terminal.anchored "a*",
              .sequence (.assertion .textStart)
                (.repeated 0 none true (.one (.single 'a')))⟩)).oneOrMore])]
  root := some (.sequence [.reference "list", .endOfInput])

/-- Nested lists have an answer everywhere, and are matched to an end in a text with brackets that
are not closed, with room for one match in the cache. -/
theorem Draft.build_terminates_nested :
    ∃ grammar, Draft.nested.build = .ok grammar ∧
      (∀ id here, ∃ answer, RuleParse grammar id here answer) ∧
      (matchRule grammar grammar.root
        (.initial ⟨['(', '(', 'a']⟩ (Config.default.withCache 1 1) NodeStack.initial)).1 ≠
        .failed .divergence := by
  have checked : (match Draft.nested.build with
      | .ok grammar => grammar.isProcedureFree && grammar.isUnshared &&
          grammar.allTests Test.matchesNothing
      | .error _ => false) = true := by
    decide +kernel
  split at checked
  · rename_i grammar built
    simp only [Bool.and_eq_true] at checked
    obtain ⟨⟨free, unshared⟩, all⟩ := checked
    obtain ⟨total, ends⟩ :=
      Draft.build_terminates built free unshared (Grammar.hasFrankPatterns_of_matchesNothing all)
    exact ⟨grammar, built, total, ends NodeStack.ledger _ _ (Oracle.backs_initial _ _ _ _)⟩
  · contradiction

end Packrat
