import Packrat.Proofs.Rendering

/-!
# What makes a draft a grammar

A draft is built exactly if it has a root, no name is given twice, every rule in it passes at
whatever depth it stands, and there is no left recursion (`Draft.build_exact`). A rule passes if its
behaviour makes sense and, where it is a reference, there is a definition of that name and a
behaviour given in place of the definition's makes sense (`Rule.Passes`).

Whether a rule can be numbered does not depend on the table it is added to, so both directions go
down through the rule (`lower_isOk_iff`). Every occurrence that numbering adds stems from a rule of
the draft (`Stems`), so what passes in the draft makes sense in the table (`Draft.Meets`).
-/

namespace Packrat

variable {P : Type}

/-! ## The rules of a draft -/

mutual
/-- A rule with every rule inside it. -/
def Rule.nested : Rule P → List (Rule P)
  | .mk behaviour annotations expression =>
    .mk behaviour annotations expression :: expression.nested

/-- Every rule inside an expression. -/
def Expression.nested : Expression P → List (Rule P)
  | .sequence rules => Rule.nestedAll rules
  | .choice rules => Rule.nestedAll rules
  | .group rule => rule.nested
  | .terminal _ => []
  | .reference _ _ _ => []
  | .procedure _ => []

/-- Several rules with every rule inside them. -/
def Rule.nestedAll : List (Rule P) → List (Rule P)
  | [] => []
  | rule :: later => rule.nested ++ Rule.nestedAll later
end

/-- A rule is among those nested in it. -/
theorem Rule.mem_nested (rule : Rule P) : rule ∈ rule.nested := by
  cases rule with
  | mk behaviour annotations expression =>
    rw [Rule.nested]
    exact List.mem_cons_self

/-- An expression has what it refers to among definitions of some names: a reference leads to one of
them, and a behaviour given in place of the definition's makes sense. -/
def Expression.Resolves (names : List String) : Expression P → Prop
  | .reference name replaced _ => name ∈ names ∧ ∀ behaviour ∈ replaced, behaviour.fault = none
  | .terminal _ => True
  | .procedure _ => True
  | .sequence _ => True
  | .choice _ => True
  | .group _ => True

/-- A rule may stand among definitions of some names. -/
structure Rule.Passes (names : List String) (rule : Rule P) : Prop where
  /-- The behaviour makes sense. -/
  behaviour : rule.behaviour.fault = none
  /-- What the rule refers to is there. -/
  resolves : rule.expression.Resolves names

namespace Draft

/-- The rules of a draft with a root, with every rule inside them. -/
def everyRule (draft : Draft P) (root : Rule P) : List (Rule P) :=
  (draft.definitions.map (·.2) ++ [root]).flatMap Rule.nested

/-! ## Names that are given once -/

/-- No name stands twice just if none that was seen stands in the list and none stands there
twice. -/
theorem firstRepeated_eq_none_iff {seen names : List String} :
    firstRepeated seen names = none ↔ names.Nodup ∧ ∀ name ∈ names, name ∉ seen := by
  induction names generalizing seen with
  | nil => simp [firstRepeated]
  | cons name later ih =>
    rw [firstRepeated, List.nodup_cons, List.forall_mem_cons]
    by_cases repeated : name ∈ seen
    · simp [repeated]
    · rw [if_neg (mt List.contains_iff_mem.mp repeated), ih]
      simp only [List.mem_cons, not_or]
      constructor
      · rintro ⟨distinct, others⟩
        exact ⟨⟨fun member => (others name member).1 rfl, distinct⟩, repeated,
          fun other member => (others other member).2⟩
      · rintro ⟨⟨once, distinct⟩, -, unseen⟩
        refine ⟨distinct, fun other member => ⟨fun same => ?_, unseen other member⟩⟩
        exact once (same ▸ member)

/-! ## Rules that can be numbered -/

/-- A result that depends on another exists just if the other does and something follows it. -/
theorem exists_bind_eq_ok_iff {ε α β : Type} {first : Except ε α} {later : α → Except ε β} :
    (∃ result, (first >>= later) = .ok result) ↔
      ∃ value, first = .ok value ∧ ∃ result, later value = .ok result := by
  constructor
  · rintro ⟨result, done⟩
    obtain ⟨value, before, after⟩ := exists_of_bind_eq_ok done
    exact ⟨value, before, result, after⟩
  · rintro ⟨value, rfl, result, after⟩
    exact ⟨result, after⟩

/-- A behaviour is not refused just if it makes sense. -/
theorem checkBehaviour_eq_ok_iff {rule : String} {behaviour : Behaviour} {done : Unit} :
    checkBehaviour rule behaviour = .ok done ↔ behaviour.fault = none := by
  unfold checkBehaviour
  cases behaviour.fault with
  | none => simp
  | some fault => simp

variable {given : List (String × Rule P)}

/-- A name leads to a definition just if one has it. -/
theorem exists_definition_iff {name : String} :
    (∃ definition rule, given.findIdx? (·.1 == name) = some definition ∧
      given.lookup name = some rule) ↔ name ∈ given.map (·.1) := by
  constructor
  · rintro ⟨definition, rule, defined, found⟩
    have listed := List.mem_of_getElem? (getElem?_of_lookup defined found)
    exact List.mem_map.mpr ⟨_, listed, rfl⟩
  · intro member
    obtain ⟨entry, listed, rfl⟩ := List.mem_map.mp member
    have numbered : (given.findIdx? (·.1 == entry.1)).isSome = true := by
      rw [List.findIdx?_isSome, List.any_eq_true]
      exact ⟨entry, listed, beq_self_eq_true _⟩
    have known : given.lookup entry.1 ≠ none := by
      intro missing
      have other := List.lookup_eq_none_iff.mp missing entry listed
      simp at other
    obtain ⟨definition, defined⟩ := Option.isSome_iff_exists.mp numbered
    obtain ⟨rule, found⟩ := Option.ne_none_iff_exists'.mp known
    exact ⟨definition, rule, defined, found⟩

/-- A reference can be numbered just if there is a definition of its name and what replaces the
behaviour makes sense. -/
theorem lowerReference_isOk_iff {name : String} {behaviour : Option Behaviour}
    {annotations : Option Annotations} {table : Table P} :
    (∃ result, lowerReference given name behaviour annotations table = .ok result) ↔
      name ∈ given.map (·.1) ∧ ∀ replaced ∈ behaviour, replaced.fault = none := by
  rw [← exists_definition_iff]
  unfold lowerReference
  constructor
  · rintro ⟨result, done⟩
    split at done
    · rename_i definition rule defined found
      refine ⟨⟨definition, rule, defined, found⟩, fun replaced stands => ?_⟩
      obtain rfl : behaviour = some replaced := stands
      simp only [Option.isNone_some, Bool.false_and, Bool.false_eq_true, ↓reduceIte,
        Option.map_some] at done
      split at done
      · contradiction
      · rename_i accepted
        unfold checkBehaviour at accepted
        cases sense : replaced.fault with
        | none => rfl
        | some fault =>
          rw [sense] at accepted
          exact absurd rfl (accepted (.invalidBehaviour name fault))
    · contradiction
  · rintro ⟨⟨definition, rule, defined, found⟩, sense⟩
    rw [defined, found]
    by_cases nothing : (behaviour.isNone && annotations.isNone) = true
    · exact ⟨_, if_pos nothing⟩
    · simp only [nothing, ↓reduceIte, Bool.false_eq_true]
      cases behaviour with
      | none => exact ⟨_, rfl⟩
      | some replaced =>
        have checked : checkBehaviour name replaced = .ok () :=
          checkBehaviour_eq_ok_iff.mpr (sense replaced rfl)
        rw [Option.map_some, checked]
        exact ⟨_, rfl⟩

mutual
/-- A rule can be numbered just if it and every rule inside it passes, whatever the table. -/
theorem lower_isOk_iff {rule : Rule P} {table : Table P} :
    (∃ result, lower given rule table = .ok result) ↔
      ∀ inner ∈ rule.nested, inner.Passes (given.map (·.1)) := by
  cases rule with
  | mk behaviour annotations expression =>
    have checked : (∃ result, lower given (.mk behaviour annotations expression) table =
        .ok result) ↔ behaviour.fault = none ∧
          ∃ result, lowerExpression given expression table = .ok result := by
      unfold lower
      simp only [exists_bind_eq_ok_iff, checkBehaviour_eq_ok_iff, Except.ok.injEq,
        exists_eq', and_true, exists_and_left, exists_const]
    rw [checked, lowerExpression_isOk_iff, Rule.nested, List.forall_mem_cons]
    constructor
    · rintro ⟨sense, resolves, inside⟩
      exact ⟨⟨sense, resolves⟩, inside⟩
    · rintro ⟨⟨sense, resolves⟩, inside⟩
      exact ⟨sense, resolves, inside⟩

/-- An expression can be numbered just if what it refers to is there and every rule inside it
passes. -/
theorem lowerExpression_isOk_iff {expression : Expression P} {table : Table P} :
    (∃ result, lowerExpression given expression table = .ok result) ↔
      expression.Resolves (given.map (·.1)) ∧
        ∀ inner ∈ expression.nested, inner.Passes (given.map (·.1)) := by
  unfold lowerExpression
  cases expression with
  | terminal terminal => simp [Expression.Resolves, Expression.nested]
  | procedure steps => simp [Expression.Resolves, Expression.nested]
  | reference name replaced annotations =>
    rw [lowerReference_isOk_iff]
    simp [Expression.Resolves, Expression.nested]
  | sequence rules =>
    have inside := @lowerAll_isOk_iff rules table
    simp only [exists_bind_eq_ok_iff, Except.ok.injEq, exists_eq', and_true]
    simpa [Expression.Resolves, Expression.nested] using inside
  | choice rules =>
    have inside := @lowerAll_isOk_iff rules table
    simp only [exists_bind_eq_ok_iff, Except.ok.injEq, exists_eq', and_true]
    simpa [Expression.Resolves, Expression.nested] using inside
  | group rule =>
    have inside := @lower_isOk_iff rule table
    simp only [exists_bind_eq_ok_iff, Except.ok.injEq, exists_eq', and_true]
    simpa [Expression.Resolves, Expression.nested] using inside

/-- Several rules can be numbered just if they and every rule inside them pass. -/
theorem lowerAll_isOk_iff {rules : List (Rule P)} {table : Table P} :
    (∃ result, lowerAll given rules table = .ok result) ↔
      ∀ inner ∈ Rule.nestedAll rules, inner.Passes (given.map (·.1)) := by
  unfold lowerAll
  cases rules with
  | nil => simp [Rule.nestedAll]
  | cons rule later =>
    simp only [exists_bind_eq_ok_iff, Except.ok.injEq, exists_eq', and_true, Rule.nestedAll,
      List.forall_mem_append]
    rw [← @lower_isOk_iff rule table]
    constructor
    · rintro ⟨first, numbered, others⟩
      exact ⟨⟨first, numbered⟩, lowerAll_isOk_iff.mp others⟩
    · rintro ⟨⟨first, numbered⟩, others⟩
      exact ⟨first, numbered, lowerAll_isOk_iff.mpr others⟩
end

/-- Definitions can be numbered just if they and every rule inside them pass. -/
theorem lowerDefinitions_isOk_iff {later : List (String × Rule P)} {id : RuleId} {table : Table P} :
    (∃ result, lowerDefinitions given id later table = .ok result) ↔
      ∀ entry ∈ later, ∀ inner ∈ entry.2.nested, inner.Passes (given.map (·.1)) := by
  induction later generalizing id table with
  | nil => simp [lowerDefinitions]
  | cons entry later ih =>
    simp only [lowerDefinitions, exists_bind_eq_ok_iff, List.forall_mem_cons]
    rw [← @lower_isOk_iff P given entry.2 table]
    constructor
    · rintro ⟨first, numbered, others⟩
      exact ⟨⟨first, numbered⟩, ih.mp others⟩
    · rintro ⟨⟨first, numbered⟩, others⟩
      exact ⟨first, numbered, ih.mpr others⟩

/-- A draft can be numbered just if every rule in it passes. -/
theorem number_isOk_iff {draft : Draft P} {root : Rule P} :
    (∃ grammar, draft.number root = .ok grammar) ↔
      ∀ rule ∈ draft.everyRule root, rule.Passes draft.names := by
  have all : (∀ rule ∈ draft.everyRule root, rule.Passes draft.names) ↔
      (∀ entry ∈ draft.definitions, ∀ inner ∈ entry.2.nested, inner.Passes draft.names) ∧
        ∀ inner ∈ root.nested, inner.Passes draft.names := by
    simp only [everyRule, List.mem_flatMap, List.mem_append, List.mem_map, List.mem_singleton]
    constructor
    · intro passes
      refine ⟨fun entry listed inner inside => ?_, fun inner inside => ?_⟩
      · exact passes inner ⟨entry.2, .inl ⟨entry, listed, rfl⟩, inside⟩
      · exact passes inner ⟨root, .inr rfl, inside⟩
    · rintro ⟨definitions, rooted⟩ rule ⟨outer, ⟨entry, listed, rfl⟩ | rfl, inside⟩
      · exact definitions entry listed rule inside
      · exact rooted rule inside
  rw [all]
  unfold number
  simp only [exists_bind_eq_ok_iff, Except.ok.injEq, exists_eq', and_true]
  constructor
  · rintro ⟨table, filled, result, lowered⟩
    exact ⟨lowerDefinitions_isOk_iff.mp ⟨table, filled⟩, lower_isOk_iff.mp ⟨result, lowered⟩⟩
  · rintro ⟨definitions, rooted⟩
    obtain ⟨table, filled⟩ := lowerDefinitions_isOk_iff.mpr definitions
    obtain ⟨result, lowered⟩ := lower_isOk_iff.mpr rooted
    exact ⟨table, filled, result, lowered⟩

/-! ## Where occurrences come from -/

/-- An occurrence stems from one of several rules: it is that rule's own, or it stands for the
definition that the rule refers to. -/
inductive Stems (given : List (String × Rule P)) (rules : List (Rule P)) : Occurrence P → Prop
  /-- The occurrence has the behaviour and the annotations of the rule. -/
  | own {rule : Rule P} {name : Option String} {test : Test P} (listed : rule ∈ rules) :
      Stems given rules ⟨name, rule.text, rule.behaviour, rule.annotations, .own test⟩
  /-- The occurrence replaces the behaviour or the annotations of a definition. -/
  | substitute {rule : Rule P} {name : String} {behaviour : Option Behaviour}
      {annotations : Option Annotations} {definition : RuleId} {defined : Rule P}
      (listed : rule ∈ rules) (refers : rule.expression = .reference name behaviour annotations)
      (found : given.lookup name = some defined) :
      Stems given rules (Draft.substitute name definition defined behaviour annotations)

/-- An occurrence that stems from some rules stems from more. -/
theorem Stems.mono {rules more : List (Rule P)} (subset : rules ⊆ more) {occurrence : Occurrence P}
    (stems : Stems given rules occurrence) : Stems given more occurrence := by
  cases stems with
  | own listed => exact .own (subset listed)
  | substitute listed refers found => exact .substitute (subset listed) refers found

/-- A table adds to another only occurrences that stem from some rules. -/
def AddsFrom (given : List (String × Rule P)) (rules : List (Rule P))
    (before after : Table P) : Prop :=
  ∀ occurrence ∈ after.toList, occurrence ∈ before.toList ∨ Stems given rules occurrence

variable {rules more : List (Rule P)} {before middle after : Table P}

/-- A table adds nothing to itself. -/
theorem AddsFrom.refl (table : Table P) : AddsFrom given rules table table :=
  fun _ member => .inl member

/-- What is added from some rules is added from more. -/
theorem AddsFrom.mono (subset : rules ⊆ more) (adds : AddsFrom given rules before after) :
    AddsFrom given more before after :=
  fun occurrence member => (adds occurrence member).imp_right (Stems.mono subset)

/-- Adding twice is adding. -/
theorem AddsFrom.trans (first : AddsFrom given rules before middle)
    (second : AddsFrom given rules middle after) : AddsFrom given rules before after := by
  intro occurrence member
  rcases second occurrence member with earlier | stems
  · exact first occurrence earlier
  · exact .inr stems

/-- One more occurrence may be added that stems from one of the rules. -/
theorem AddsFrom.push (adds : AddsFrom given rules before after) {occurrence : Occurrence P}
    (stems : Stems given rules occurrence) :
    AddsFrom given rules before (after.push occurrence) := by
  intro other member
  rw [Array.toList_push, List.mem_append, List.mem_singleton] at member
  rcases member with earlier | rfl
  · exact adds other earlier
  · exact .inr stems

/-- A place may be filled with an occurrence that stems from one of the rules. -/
theorem AddsFrom.place (adds : AddsFrom given rules before after) {occurrence : Occurrence P}
    (stems : Stems given rules occurrence) (id : RuleId) :
    AddsFrom given rules before (after.setIfInBounds id occurrence) := by
  intro other member
  rw [Array.toList_setIfInBounds] at member
  rcases List.mem_or_eq_of_mem_set member with earlier | rfl
  · exact adds other earlier
  · exact .inr stems

mutual
/-- Numbering a rule adds occurrences of the rules inside it, and gives its own. -/
theorem lower_addsFrom {rule : Rule P} {occurrence : Occurrence P} {before after : Table P}
    (done : lower given rule before = .ok (occurrence, after)) :
    AddsFrom given rule.nested before after ∧
      ∃ test, occurrence = occurrenceOf rule test := by
  cases rule with
  | mk behaviour annotations expression =>
    unfold lower at done
    obtain ⟨_, _, numbering⟩ := exists_of_bind_eq_ok done
    obtain ⟨⟨test, table⟩, lowered, same⟩ := exists_of_bind_eq_ok numbering
    obtain ⟨rfl, rfl⟩ := Prod.mk.inj (Except.ok.inj same)
    exact ⟨lowerExpression_addsFrom lowered, test, rfl⟩

/-- Numbering the expression of a rule adds occurrences of the rules inside, and at most one in
place of what the rule refers to. -/
theorem lowerExpression_addsFrom {behaviour : Behaviour} {annotations : Annotations}
    {expression : Expression P} {test : Test P} {before after : Table P}
    (done : lowerExpression given expression before = .ok (test, after)) :
    AddsFrom given (Rule.mk behaviour annotations expression).nested before after := by
  have deeper : expression.nested ⊆ (Rule.mk behaviour annotations expression).nested := by
    rw [Rule.nested]
    exact List.subset_cons_self _ _
  unfold lowerExpression at done
  cases expression with
  | terminal terminal =>
    obtain ⟨rfl, rfl⟩ := Prod.mk.inj (Except.ok.inj done)
    exact .refl before
  | procedure steps =>
    obtain ⟨rfl, rfl⟩ := Prod.mk.inj (Except.ok.inj done)
    exact .refl before
  | reference name replaced others =>
    simp only [lowerReference] at done
    split at done
    · rename_i definition rule defined found
      split at done
      · obtain ⟨rfl, rfl⟩ := Prod.mk.inj (Except.ok.inj done)
        exact .refl before
      · split at done
        · contradiction
        · obtain ⟨rfl, rfl⟩ := Prod.mk.inj (Except.ok.inj done)
          exact (AddsFrom.refl before).push (.substitute (Rule.mem_nested _) rfl found)
    · contradiction
  | sequence rules =>
    obtain ⟨⟨parts, table⟩, lowered, same⟩ := exists_of_bind_eq_ok done
    obtain ⟨rfl, rfl⟩ := Prod.mk.inj (Except.ok.inj same)
    exact (lowerAll_addsFrom lowered).mono deeper
  | choice rules =>
    obtain ⟨⟨parts, table⟩, lowered, same⟩ := exists_of_bind_eq_ok done
    obtain ⟨rfl, rfl⟩ := Prod.mk.inj (Except.ok.inj same)
    exact (lowerAll_addsFrom lowered).mono deeper
  | group rule =>
    obtain ⟨⟨occurrence, table⟩, lowered, same⟩ := exists_of_bind_eq_ok done
    obtain ⟨rfl, rfl⟩ := Prod.mk.inj (Except.ok.inj same)
    obtain ⟨adds, inner, rfl⟩ := lower_addsFrom lowered
    exact (adds.push (.own rule.mem_nested)).mono deeper

/-- Numbering several rules adds occurrences of the rules inside them. -/
theorem lowerAll_addsFrom {rules : List (Rule P)} {parts : List RuleId} {before after : Table P}
    (done : lowerAll given rules before = .ok (parts, after)) :
    AddsFrom given (Rule.nestedAll rules) before after := by
  unfold lowerAll at done
  cases rules with
  | nil =>
    obtain ⟨rfl, rfl⟩ := Prod.mk.inj (Except.ok.inj done)
    exact .refl before
  | cons rule later =>
    obtain ⟨⟨occurrence, table⟩, lowered, rest⟩ := exists_of_bind_eq_ok done
    obtain ⟨⟨numbers, last⟩, loweredLater, same⟩ := exists_of_bind_eq_ok rest
    obtain ⟨rfl, rfl⟩ := Prod.mk.inj (Except.ok.inj same)
    obtain ⟨adds, test, rfl⟩ := lower_addsFrom lowered
    have first : AddsFrom given (rule.nested ++ Rule.nestedAll later) before
        (table.push (occurrenceOf rule test)) :=
      (adds.push (.own rule.mem_nested)).mono (List.subset_append_left _ _)
    have others : AddsFrom given (rule.nested ++ Rule.nestedAll later)
        (table.push (occurrenceOf rule test)) last :=
      (lowerAll_addsFrom loweredLater).mono (List.subset_append_right _ _)
    exact first.trans others
end

/-- Numbering definitions adds occurrences of the rules inside them. -/
theorem lowerDefinitions_addsFrom {later : List (String × Rule P)} {id : RuleId}
    {before after : Table P} (inside : ∀ entry ∈ later, entry.2.nested ⊆ rules)
    (done : lowerDefinitions given id later before = .ok after) :
    AddsFrom given rules before after := by
  induction later generalizing id before with
  | nil =>
    obtain rfl := Except.ok.inj done
    exact .refl _
  | cons entry later ih =>
    unfold lowerDefinitions at done
    obtain ⟨⟨occurrence, table⟩, lowered, rest⟩ := exists_of_bind_eq_ok done
    obtain ⟨adds, test, rfl⟩ := lower_addsFrom lowered
    have here : entry.2.nested ⊆ rules := inside entry List.mem_cons_self
    have stems : Stems given rules { occurrenceOf entry.2 test with name := some entry.1 } :=
      .own (here entry.2.mem_nested)
    have placed := (adds.mono here).place stems id
    exact placed.trans (ih (fun other listed => inside other (List.mem_cons_of_mem _ listed)) rest)

/-- Every occurrence in a grammar that a draft is numbered to stems from a rule of the draft. -/
theorem stems_of_number {draft : Draft P} {root : Rule P} {grammar : Grammar P}
    (numbering : draft.number root = .ok grammar) {occurrence : Occurrence P}
    (member : occurrence ∈ grammar.rules.toList) :
    occurrence = .never ∨ Stems draft.definitions (draft.everyRule root) occurrence := by
  have definitions : ∀ entry ∈ draft.definitions, entry.2.nested ⊆ draft.everyRule root := by
    intro entry listed inner nested
    refine List.mem_flatMap.mpr ⟨entry.2, List.mem_append_left _ ?_, nested⟩
    exact List.mem_map.mpr ⟨entry, listed, rfl⟩
  have rooted : root.nested ⊆ draft.everyRule root := by
    intro inner nested
    exact List.mem_flatMap.mpr ⟨root, List.mem_append_right _ (List.mem_singleton.mpr rfl), nested⟩
  unfold number at numbering
  obtain ⟨table, filled, rest⟩ := exists_of_bind_eq_ok numbering
  obtain ⟨⟨last, grown⟩, lowered, same⟩ := exists_of_bind_eq_ok rest
  obtain rfl := Except.ok.inj same
  have first := lowerDefinitions_addsFrom definitions filled
  obtain ⟨adds, test, rfl⟩ := lower_addsFrom lowered
  have second : AddsFrom draft.definitions root.nested table
      (grown.push (occurrenceOf root test)) :=
    adds.push (.own root.mem_nested)
  have all := first.trans (second.mono rooted)
  refine (all occurrence member).imp_left fun placed => ?_
  rw [Array.toList_replicate] at placed
  exact (List.mem_replicate.mp placed).2

/-- What stems from rules that pass makes sense, where the definitions are among them. -/
theorem Stems.fault_eq_none {names : List String} {occurrence : Occurrence P}
    (stems : Stems given rules occurrence) (passes : ∀ rule ∈ rules, rule.Passes names)
    (definitions : ∀ entry ∈ given, entry.2 ∈ rules) : occurrence.behaviour.fault = none := by
  cases stems with
  | own listed => exact (passes _ listed).behaviour
  | @substitute rule name behaviour annotations definition defined listed refers found =>
    cases behaviour with
    | none =>
      obtain ⟨before, after, rfl, -⟩ := List.lookup_eq_some_iff.mp found
      have inherited : defined ∈ rules :=
        definitions (name, defined) (List.mem_append_right _ List.mem_cons_self)
      exact (passes defined inherited).behaviour
    | some behaviour =>
      have resolves := (passes rule listed).resolves
      rw [refers] at resolves
      exact resolves.2 behaviour rfl

/-! ## What is built -/

/-- A grammar is what a draft with a root says, and every number in it is that of a rule. -/
structure Meets (draft : Draft P) (root : Rule P) (grammar : Grammar P) : Prop where
  /-- The root is in the table. -/
  root_lt : grammar.root < grammar.size
  /-- What a rule stands for is in the table. -/
  target_lt : ∀ {id target}, (grammar.rule id).target? = some target → target < grammar.size
  /-- What a rule is made of is in the table. -/
  part_lt : ∀ {id part}, part ∈ (grammar.rule id).parts → part < grammar.size
  /-- What a name leads to is in the table. -/
  named_lt : ∀ {name id}, grammar.named? name = some id → id < grammar.size
  /-- The names are those of the definitions. -/
  names : grammar.names = draft.names
  /-- A name leads to its own definition, numbered. -/
  definition : ∀ {name rule}, (name, rule) ∈ draft.definitions → ∃ id,
    grammar.named? name = some id ∧
      RendersDefinition draft.definitions grammar.rules name rule id
  /-- The root is numbered last. -/
  root : RendersPart draft.definitions grammar.rules root grammar.root
  /-- Only the tests of definitions are shared. -/
  shared : ∀ {id definition}, (grammar.rule id).body = .shared definition →
    ∃ name, grammar.names[definition]? = some name ∧ grammar.named? name = some definition
  /-- Every behaviour makes sense. -/
  behaviour : ∀ rule ∈ grammar.rules.toList, rule.behaviour.fault = none

/-- Where no name is given twice, a name leads to its own place. -/
theorem named?_of_getElem? {grammar : Grammar P} (distinct : grammar.names.Nodup) {index : Nat}
    {name : String} (listed : grammar.names[index]? = some name) :
    grammar.named? name = some index := by
  obtain ⟨inside, rfl⟩ := List.getElem?_eq_some_iff.mp listed
  refine List.findIdx?_eq_some_iff_getElem.mpr ⟨inside, beq_self_eq_true _, fun other earlier => ?_⟩
  have different : grammar.names[other] ≠ grammar.names[index] :=
    List.pairwise_iff_getElem.mp distinct other index (Nat.lt_trans earlier inside) inside earlier
  simpa using different

/-- A grammar that a draft with rules that pass and names given once is numbered to is what the
draft says. -/
theorem meets_of_number {draft : Draft P} {root : Rule P} {grammar : Grammar P}
    (rooted : draft.root = some root) (distinct : draft.names.Nodup)
    (passes : ∀ rule ∈ draft.everyRule root, rule.Passes draft.names)
    (numbering : draft.number root = .ok grammar) : draft.Meets root grammar := by
  have names := names_of_number numbering
  have ordered : grammar.IsOrdered := (isNumbered_rules_of_number numbering).isOrdered
  have rendered : draft.IsRendered grammar := isRendered_of_number rooted numbering
  have once : grammar.names.Nodup := names ▸ distinct
  have rootPart := rendered.root rooted
  refine ⟨?_, ordered.target_lt, fun member => (ordered.contains member).2.1, ?_, names, ?_,
    rootPart, ?_, ?_⟩
  · cases rootPart with
    | mk behind stands renders => exact (Array.getElem?_eq_some_iff.mp stands).1
  · intro name id found
    have isDefinition : id < grammar.names.length :=
      (List.findIdx?_eq_some_iff_getElem.mp found).1
    exact Nat.lt_of_lt_of_le isDefinition ordered.names_le
  · intro name rule member
    obtain ⟨index, listed⟩ := List.getElem?_of_mem member
    have place : grammar.names[index]? = some name := by
      rw [names, Draft.names, List.getElem?_map, listed, Option.map_some]
    exact ⟨index, named?_of_getElem? once place, rendered.definition listed⟩
  · intro id definition shared
    have isDefinition := (ordered.shares shared).2
    have place := List.getElem?_eq_getElem isDefinition
    exact ⟨_, place, named?_of_getElem? once place⟩
  · intro occurrence member
    rcases stems_of_number numbering member with rfl | stems
    · rfl
    · refine stems.fault_eq_none passes fun entry listed => ?_
      refine List.mem_flatMap.mpr ⟨entry.2, List.mem_append_left _ ?_, entry.2.mem_nested⟩
      exact List.mem_map.mpr ⟨entry, listed, rfl⟩

/-- A draft is built exactly if it has a root, no two definitions share a name, every rule in it
passes at whatever depth, and no left recursion is found in what it is numbered to; and what is
built is what the draft says, with every number in the table and every behaviour making sense. -/
theorem build_exact (draft : Draft P) :
    ((∃ grammar, draft.build = .ok grammar) ↔ ∃ root, draft.root = some root ∧
      draft.names.Nodup ∧ (∀ rule ∈ draft.everyRule root, rule.Passes draft.names) ∧
      ∀ grammar, draft.number root = .ok grammar → grammar.leftRecursion? = none) ∧
    ∀ root grammar, draft.root = some root → draft.build = .ok grammar →
      draft.Meets root grammar := by
  have distinct_iff : firstRepeated [] draft.names = none ↔ draft.names.Nodup := by
    simp [firstRepeated_eq_none_iff]
  refine ⟨⟨?_, ?_⟩, ?_⟩
  · rintro ⟨grammar, built⟩
    obtain ⟨root, rooted, distinct, numbering, acyclic⟩ := build_eq_ok_iff.mp built
    refine ⟨root, rooted, distinct_iff.mp distinct, number_isOk_iff.mp ⟨grammar, numbering⟩,
      fun other numbered => ?_⟩
    have same : other = grammar := Except.ok.inj (numbered.symm.trans numbering)
    exact same ▸ acyclic
  · rintro ⟨root, rooted, distinct, passes, acyclic⟩
    obtain ⟨grammar, numbering⟩ := number_isOk_iff.mpr passes
    exact ⟨grammar, build_eq_ok_iff.mpr
      ⟨root, rooted, distinct_iff.mpr distinct, numbering, acyclic grammar numbering⟩⟩
  · intro root grammar rooted built
    obtain ⟨other, given, distinct, numbering, -⟩ := build_eq_ok_iff.mp built
    obtain rfl : other = root := Option.some.inj (given.symm.trans rooted)
    have passes := number_isOk_iff.mp ⟨grammar, numbering⟩
    exact meets_of_number rooted (distinct_iff.mp distinct) passes numbering

/-- Calls whose arguments are calls. The arguments may be missing, which is said where they are
referred to. -/
def calls : Draft where
  definitions :=
    [("call", .sequence
        [.literal "f",
          .ofExpression (.reference "arguments" (some { Behaviour.scanning with
            cardinality := .optional }) none)]),
      ("arguments",
        .sequence [.literal "(", (Rule.reference "call").zeroOrMore, (Rule.literal ")").pin])]
  root := some (.sequence [.reference "call", .endOfInput])

/-- Calls are built: every rule in them passes, and the grammar is what the draft says. -/
theorem build_exact_calls :
    ∃ root grammar, calls.root = some root ∧ calls.build = .ok grammar ∧
      (∀ rule ∈ calls.everyRule root, rule.Passes calls.names) ∧ calls.Meets root grammar := by
  have isOk : (match calls.build with
      | .ok _ => true
      | .error _ => false) = true := by
    decide +kernel
  split at isOk
  · rename_i grammar built
    obtain ⟨exactly, meets⟩ := build_exact calls
    obtain ⟨root, rooted, -, passes, -⟩ := exactly.mp ⟨grammar, built⟩
    exact ⟨root, grammar, rooted, built, passes, meets root grammar rooted built⟩
  · contradiction

end Draft

end Packrat
