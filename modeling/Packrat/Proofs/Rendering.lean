import Packrat.Proofs.Numbering

/-!
# How rules stand in the table

Building a draft puts every rule into the table part by part. `RendersTest` says that a test is what
an expression comes to, its parts standing in the table as they are given; a rule that is no
definition stands under a number behind the definitions (`RendersPart`). Filling the place of a
definition and adding rules leave what stands there as it is, so in a grammar that was built every
definition and the root stand as the draft gives them (`isRendered_of_build`).
-/

namespace Packrat.Draft

variable {P : Type}

section Rendering

variable (given : List (String × Rule P)) (table : Table P)

mutual
/-- A test is what an expression comes to in a table. -/
inductive RendersTest : Expression P → Test P → Prop
  /-- A terminal is itself. -/
  | terminal {terminal : Terminal} : RendersTest (.terminal terminal) (.terminal terminal)
  /-- A reference that replaces nothing leads to the definition. -/
  | reference {name : String} {definition : RuleId}
      (defined : given.findIdx? (·.1 == name) = some definition) :
      RendersTest (.reference name none none) (.reference definition)
  /-- A reference that replaces something leads to a rule that shares the test of the definition. -/
  | substitute {name : String} {behaviour : Option Behaviour} {annotations : Option Annotations}
      {definition id : RuleId} {rule : Rule P}
      (replaced : (behaviour.isNone && annotations.isNone) = false)
      (defined : given.findIdx? (·.1 == name) = some definition)
      (found : given.lookup name = some rule) (behind : given.length ≤ id)
      (stands : table[id]? = some (Draft.substitute name definition rule behaviour annotations)) :
      RendersTest (.reference name behaviour annotations) (.reference id)
  /-- A procedure is itself. -/
  | procedure {procedure : P} : RendersTest (.procedure procedure) (.procedure procedure)
  /-- A sequence is made of its parts. -/
  | sequence {rules : List (Rule P)} {parts : List RuleId} (all : RendersAll rules parts) :
      RendersTest (.sequence rules) (.sequence parts)
  /-- A choice is made of its parts. -/
  | choice {rules : List (Rule P)} {parts : List RuleId} (all : RendersAll rules parts) :
      RendersTest (.choice rules) (.choice parts)
  /-- A group is made of its part. -/
  | group {rule : Rule P} {id : RuleId} (part : RendersPart rule id) :
      RendersTest (.group rule) (.group id)

/-- A rule that is no definition stands in a table under a number. -/
inductive RendersPart : Rule P → RuleId → Prop
  /-- The rule has its own behaviour and annotations, and its test is what its expression comes to.
  -/
  | mk {behaviour : Behaviour} {annotations : Annotations} {expression : Expression P}
      {test : Test P} {id : RuleId} (behind : given.length ≤ id)
      (stands : table[id]? = some ⟨none, (Rule.mk behaviour annotations expression).text,
        behaviour, annotations, .own test⟩)
      (renders : RendersTest expression test) :
      RendersPart (.mk behaviour annotations expression) id

/-- Several rules stand in a table under numbers. -/
inductive RendersAll : List (Rule P) → List RuleId → Prop
  /-- There are no rules. -/
  | nil : RendersAll [] []
  /-- A rule stands there, and the others do. -/
  | cons {rule : Rule P} {id : RuleId} {rules : List (Rule P)} {parts : List RuleId}
      (part : RendersPart rule id) (later : RendersAll rules parts) :
      RendersAll (rule :: rules) (id :: parts)
end

/-- A definition stands in a table under a number. -/
def RendersDefinition (name : String) (rule : Rule P) (id : RuleId) : Prop :=
  ∃ test, table[id]? =
      some ⟨some name, rule.text, rule.behaviour, rule.annotations, .own test⟩ ∧
    RendersTest given table rule.expression test

end Rendering

/-! ## What stands in a table stays there -/

/-- The rules of one table from a number on are in another, at the same place. -/
def KeepsBehind (count : Nat) (before after : Table P) : Prop :=
  ∀ (id : RuleId) (rule : Occurrence P), count ≤ id → before[id]? = some rule →
    after[id]? = some rule

variable {given : List (String × Rule P)} {before after : Table P}

/-- A table that keeps every rule of another keeps those from a number on. -/
theorem Keeps.behind (keeps : Keeps before after) (count : Nat) : KeepsBehind count before after :=
  fun id rule _ found => keeps id rule found

mutual
/-- A test is what an expression comes to in every table that keeps the rules behind the
definitions. -/
theorem RendersTest.mono (keeps : KeepsBehind given.length before after) {expression : Expression P}
    {test : Test P} : RendersTest given before expression test →
      RendersTest given after expression test
  | .terminal => .terminal
  | .reference defined => .reference defined
  | .substitute replaced defined found behind stands =>
    .substitute replaced defined found behind (keeps _ _ behind stands)
  | .procedure => .procedure
  | .sequence all => .sequence (all.mono keeps)
  | .choice all => .choice (all.mono keeps)
  | .group part => .group (part.mono keeps)

/-- A part stands in every table that keeps the rules behind the definitions. -/
theorem RendersPart.mono (keeps : KeepsBehind given.length before after) {rule : Rule P}
    {id : RuleId} : RendersPart given before rule id → RendersPart given after rule id
  | .mk behind stands renders => .mk behind (keeps _ _ behind stands) (renders.mono keeps)

/-- Several parts stand in every table that keeps the rules behind the definitions. -/
theorem RendersAll.mono (keeps : KeepsBehind given.length before after) {rules : List (Rule P)}
    {parts : List RuleId} : RendersAll given before rules parts → RendersAll given after rules parts
  | .nil => .nil
  | .cons part later => .cons (part.mono keeps) (later.mono keeps)
end

/-- Every rule of a table is in itself, at the same place. -/
theorem Keeps.refl (table : Table P) : Keeps table table :=
  fun _ _ found => found

/-- A table that keeps the rules of one that keeps the rules of another keeps these. -/
theorem Keeps.trans {middle : Table P} (first : Keeps before middle) (second : Keeps middle after) :
    Keeps before after :=
  fun id rule found => second id rule (first id rule found)

/-! ## Numbering a draft -/

/-- The occurrence of a rule whose test is known. -/
def occurrenceOf (rule : Rule P) (test : Test P) : Occurrence P :=
  ⟨none, rule.text, rule.behaviour, rule.annotations, .own test⟩

/-- A rule whose test is what its expression comes to may be added to the table as a part. -/
theorem RendersTest.push {rule : Rule P} {test : Test P} (room : given.length ≤ before.size)
    (renders : RendersTest given before rule.expression test) :
    RendersPart given (before.push (occurrenceOf rule test)) rule before.size := by
  obtain ⟨behaviour, annotations, expression⟩ := rule
  have keeps : Keeps before
      (before.push (occurrenceOf (.mk behaviour annotations expression) test)) := keeps_push _
  exact .mk room Array.getElem?_push_size (renders.mono (keeps.behind given.length))

/-- Numbering a reference gives what the reference comes to. -/
theorem lowerReference_renders {name : String} {behaviour : Option Behaviour}
    {annotations : Option Annotations} {test : Test P} (room : given.length ≤ before.size)
    (done : lowerReference given name behaviour annotations before = .ok (test, after)) :
    Keeps before after ∧ RendersTest given after (.reference name behaviour annotations) test := by
  unfold lowerReference at done
  split at done
  · rename_i definition rule defined found
    split at done
    · rename_i nothing
      obtain ⟨rfl, rfl⟩ := Prod.mk.inj (Except.ok.inj done)
      simp only [Bool.and_eq_true, Option.isNone_iff_eq_none] at nothing
      obtain ⟨rfl, rfl⟩ := nothing
      exact ⟨.refl before, .reference defined⟩
    · rename_i replaced
      split at done
      · contradiction
      · obtain ⟨rfl, rfl⟩ := Prod.mk.inj (Except.ok.inj done)
        exact ⟨keeps_push _, .substitute (Bool.not_eq_true _ ▸ replaced) defined found room
          Array.getElem?_push_size⟩
  · contradiction

mutual
/-- Numbering a rule gives its occurrence, with what its expression comes to as its test. -/
theorem lower_renders {rule : Rule P} {occurrence : Occurrence P} {before after : Table P}
    (room : given.length ≤ before.size)
    (done : lower given rule before = .ok (occurrence, after)) :
    Keeps before after ∧ ∃ test, occurrence = occurrenceOf rule test ∧
      RendersTest given after rule.expression test := by
  cases rule with
  | mk behaviour annotations expression =>
    unfold lower at done
    obtain ⟨_, _, numbering⟩ := exists_of_bind_eq_ok done
    obtain ⟨⟨test, table⟩, lowered, same⟩ := exists_of_bind_eq_ok numbering
    obtain ⟨rfl, rfl⟩ := Prod.mk.inj (Except.ok.inj same)
    obtain ⟨keeps, renders⟩ := lowerExpression_renders room lowered
    exact ⟨keeps, test, rfl, renders⟩

/-- Numbering an expression gives what it comes to. -/
theorem lowerExpression_renders {expression : Expression P} {test : Test P} {before after : Table P}
    (room : given.length ≤ before.size)
    (done : lowerExpression given expression before = .ok (test, after)) :
    Keeps before after ∧ RendersTest given after expression test := by
  unfold lowerExpression at done
  cases expression with
  | terminal terminal =>
    obtain ⟨rfl, rfl⟩ := Prod.mk.inj (Except.ok.inj done)
    exact ⟨.refl before, .terminal⟩
  | reference name behaviour annotations => exact lowerReference_renders room done
  | procedure =>
    obtain ⟨rfl, rfl⟩ := Prod.mk.inj (Except.ok.inj done)
    exact ⟨.refl before, .procedure⟩
  | sequence rules =>
    obtain ⟨⟨parts, table⟩, lowered, same⟩ := exists_of_bind_eq_ok done
    obtain ⟨rfl, rfl⟩ := Prod.mk.inj (Except.ok.inj same)
    obtain ⟨keeps, renders⟩ := lowerAll_renders room lowered
    exact ⟨keeps, .sequence renders⟩
  | choice rules =>
    obtain ⟨⟨parts, table⟩, lowered, same⟩ := exists_of_bind_eq_ok done
    obtain ⟨rfl, rfl⟩ := Prod.mk.inj (Except.ok.inj same)
    obtain ⟨keeps, renders⟩ := lowerAll_renders room lowered
    exact ⟨keeps, .choice renders⟩
  | group rule =>
    obtain ⟨⟨occurrence, table⟩, lowered, same⟩ := exists_of_bind_eq_ok done
    obtain ⟨rfl, rfl⟩ := Prod.mk.inj (Except.ok.inj same)
    obtain ⟨keeps, test, rfl, renders⟩ := lower_renders room lowered
    have inside := Nat.le_trans room keeps.size_le
    exact ⟨keeps.trans (keeps_push _), .group (renders.push inside)⟩

/-- Numbering several rules gives numbers under which they stand. -/
theorem lowerAll_renders {rules : List (Rule P)} {parts : List RuleId} {before after : Table P}
    (room : given.length ≤ before.size)
    (done : lowerAll given rules before = .ok (parts, after)) :
    Keeps before after ∧ RendersAll given after rules parts := by
  unfold lowerAll at done
  cases rules with
  | nil =>
    obtain ⟨rfl, rfl⟩ := Prod.mk.inj (Except.ok.inj done)
    exact ⟨.refl before, .nil⟩
  | cons rule rules =>
    obtain ⟨⟨occurrence, table⟩, lowered, rest⟩ := exists_of_bind_eq_ok done
    obtain ⟨⟨later, last⟩, loweredLater, same⟩ := exists_of_bind_eq_ok rest
    obtain ⟨rfl, rfl⟩ := Prod.mk.inj (Except.ok.inj same)
    obtain ⟨keeps, test, rfl, renders⟩ := lower_renders room lowered
    have inside := Nat.le_trans room keeps.size_le
    have pushed : Keeps before (table.push (occurrenceOf rule test)) := keeps.trans (keeps_push _)
    obtain ⟨further, rendersLater⟩ :=
      lowerAll_renders (Nat.le_trans room pushed.size_le) loweredLater
    have part := (renders.push inside).mono (further.behind given.length)
    exact ⟨pushed.trans further, .cons part rendersLater⟩
end

/-- Numbering the definitions from one of them on puts each in its place, and keeps those before it
and the rules behind the definitions. -/
theorem lowerDefinitions_renders {later : List (String × Rule P)} {id : Nat}
    (room : given.length ≤ before.size) (places : id + later.length = given.length)
    (done : lowerDefinitions given id later before = .ok after) :
    (∀ number rule, number < id ∨ given.length ≤ number → before[number]? = some rule →
      after[number]? = some rule) ∧ given.length ≤ after.size ∧
    ∀ index name rule, later[index]? = some (name, rule) →
      RendersDefinition given after name rule (id + index) := by
  induction later generalizing id before with
  | nil =>
    obtain rfl := Except.ok.inj done
    exact ⟨fun _ _ _ found => found, room, nofun⟩
  | cons entry later ih =>
    obtain ⟨name, rule⟩ := entry
    unfold lowerDefinitions at done
    obtain ⟨⟨occurrence, table⟩, lowered, rest⟩ := exists_of_bind_eq_ok done
    obtain ⟨keeps, test, rfl, renders⟩ := lower_renders room lowered
    rw [List.length_cons] at places
    have inside : given.length ≤ table.size := Nat.le_trans room keeps.size_le
    have filled : given.length ≤
        (table.setIfInBounds id { occurrenceOf rule test with name := some name }).size := by
      rw [Array.size_setIfInBounds]
      exact inside
    obtain ⟨kept, roomAfter, rendered⟩ := ih filled (by omega) rest
    have behind : KeepsBehind given.length table after := by
      intro number other beyond found
      have earlier : id < number := Nat.lt_of_lt_of_le (by omega) beyond
      refine kept number other (.inr beyond) ?_
      rwa [Array.getElem?_setIfInBounds_ne (Nat.ne_of_lt earlier)]
    refine ⟨fun number other place found => ?_, roomAfter, fun index otherName other listed => ?_⟩
    · have different : number ≠ id := by omega
      have still : number < id + 1 ∨ given.length ≤ number := by omega
      refine kept number other still ?_
      rw [Array.getElem?_setIfInBounds_ne (Ne.symm different)]
      exact keeps number other found
    · cases index with
      | zero =>
        obtain ⟨rfl, rfl⟩ := Prod.mk.inj (Option.some.inj listed)
        refine ⟨test, ?_, renders.mono behind⟩
        refine kept id _ (.inl (Nat.lt_succ_self id)) ?_
        have place : id < table.size := by omega
        rw [Array.getElem?_setIfInBounds_self_of_lt place]
        rfl
      | succ index =>
        have found := rendered index otherName other listed
        rwa [Nat.add_right_comm, Nat.add_assoc] at found

/-- The definitions and the root of a draft stand in a grammar as the draft gives them. -/
structure IsRendered (draft : Draft P) (grammar : Grammar P) : Prop where
  /-- Every definition stands under its number. -/
  definition : ∀ {index : Nat} {name : String} {rule : Rule P},
    draft.definitions[index]? = some (name, rule) →
      RendersDefinition draft.definitions grammar.rules name rule index
  /-- The root stands under the number of the root. -/
  root : ∀ {rule : Rule P}, draft.root = some rule →
    RendersPart draft.definitions grammar.rules rule grammar.root

/-- In a grammar that a draft is numbered to the definitions and the root stand as the draft gives
them. -/
theorem isRendered_of_number {draft : Draft P} {root : Rule P} {grammar : Grammar P}
    (rooted : draft.root = some root) (numbering : draft.number root = .ok grammar) :
    draft.IsRendered grammar := by
  unfold number at numbering
  obtain ⟨table, filled, rest⟩ := exists_of_bind_eq_ok numbering
  obtain ⟨⟨occurrence, last⟩, lowered, same⟩ := exists_of_bind_eq_ok rest
  obtain rfl := Except.ok.inj same
  have places : draft.definitions.length ≤
      (Array.replicate draft.definitions.length (Occurrence.never : Occurrence P)).size :=
    Nat.le_of_eq Array.size_replicate.symm
  obtain ⟨-, room, rendered⟩ := lowerDefinitions_renders places (Nat.zero_add _) filled
  obtain ⟨keeps, test, rfl, renders⟩ := lower_renders room lowered
  have still : Keeps table (last.push (occurrenceOf root test)) := keeps.trans (keeps_push _)
  refine ⟨fun {index name rule} listed => ?_, fun {rule} given => ?_⟩
  · obtain ⟨defined, stands, rendersDefined⟩ := rendered index name rule listed
    rw [Nat.zero_add] at stands
    exact ⟨defined, still _ _ stands, rendersDefined.mono (still.behind _)⟩
  · obtain rfl := Option.some.inj (rooted.symm.trans given)
    exact renders.push (Nat.le_trans room keeps.size_le)

/-- In a grammar that was built the definitions and the root stand as the draft gives them. -/
theorem isRendered_of_build {draft : Draft P} {grammar : Grammar P}
    (built : draft.build = .ok grammar) : draft.IsRendered grammar := by
  obtain ⟨root, rooted, _, numbering, _⟩ := build_eq_ok_iff.mp built
  exact isRendered_of_number rooted numbering

/-- The definition that a name leads to by number is the one that it leads to by rule. -/
theorem getElem?_of_lookup {name : String} {definition : RuleId} {rule : Rule P}
    (defined : given.findIdx? (·.1 == name) = some definition)
    (found : given.lookup name = some rule) : given[definition]? = some (name, rule) := by
  induction given generalizing definition with
  | nil => contradiction
  | cons entry later ih =>
    obtain ⟨other, first⟩ := entry
    rw [List.findIdx?_cons] at defined
    rw [List.lookup_cons] at found
    by_cases same : other = name
    · subst same
      simp only [beq_self_eq_true, ↓reduceIte, Option.some.injEq] at defined found
      subst defined found
      rfl
    · have differs : (other == name) = false := beq_false_of_ne same
      have reversed : (name == other) = false := beq_false_of_ne (Ne.symm same)
      simp only [differs, reversed, Bool.false_eq_true, ↓reduceIte, Option.map_eq_some_iff]
        at defined found
      obtain ⟨before, defined, rfl⟩ := defined
      exact ih defined found

end Packrat.Draft
