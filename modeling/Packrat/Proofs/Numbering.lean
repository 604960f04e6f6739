import Packrat.Grammar.Draft

/-!
# How rules are numbered

Building a draft keeps the first numbers for the definitions and numbers the parts of every rule
before the rule itself. So a reference of a built grammar leads to a definition, or to a rule that
shares the test of one and comes first, and from a rule that is no definition the way down into
parts leads to ever smaller numbers (`isOrdered_of_build`).
-/

namespace Packrat

variable {P : Type}

/-- The parts that a test is made of. -/
def Test.parts : Test P → List RuleId
  | .sequence parts => parts
  | .choice parts => parts
  | .group inner => [inner]
  | _ => []

/-- The parts of a rule that has a test of its own. -/
def Occurrence.parts (rule : Occurrence P) : List RuleId :=
  match rule.body with
  | .own test => test.parts
  | .shared _ => []

namespace Draft

/-- A test that may stand in a table that starts with a number of definitions: it refers to a
definition or to a rule that shares the test of one, and its parts stand behind the definitions. -/
structure Fits (definitions : Nat) (table : Table P) (test : Test P) : Prop where
  /-- What the test refers to is a definition or shares the test of one. -/
  reference : ∀ target, test = .reference target → target < definitions ∨
    ∃ rule definition, table[target]? = some rule ∧ rule.body = .shared definition
  /-- The parts of the test are in the table, and none of them is a definition. -/
  parts : ∀ part ∈ test.parts, definitions ≤ part ∧ part < table.size

/-- A table in which every test fits, only rules other than definitions share a test, and they come
after their parts and after what they refer to, unless it is a definition. -/
structure IsNumbered (definitions : Nat) (table : Table P) : Prop where
  /-- There is a place for every definition. -/
  room : definitions ≤ table.size
  /-- Every test fits. -/
  fits : ∀ {id : RuleId} {rule : Occurrence P} {test : Test P}, table[id]? = some rule →
    rule.body = .own test → Fits definitions table test
  /-- Parts come first. -/
  order : ∀ {id : RuleId} {rule : Occurrence P} {test : Test P}, table[id]? = some rule →
    rule.body = .own test → definitions ≤ id → ∀ part ∈ test.parts, part < id
  /-- What is referred to and no definition comes first. -/
  earlier : ∀ {id target : RuleId} {rule : Occurrence P}, table[id]? = some rule →
    rule.body = .own (.reference target) → definitions ≤ id → target < definitions ∨ target < id
  /-- A rule that shares a test is no definition and shares that of one. -/
  shares : ∀ {id definition : RuleId} {rule : Occurrence P}, table[id]? = some rule →
    rule.body = .shared definition → definitions ≤ id ∧ definition < definitions

/-- Every rule of one table is in another, at the same place. -/
def Keeps (before after : Table P) : Prop :=
  ∀ (id : RuleId) (rule : Occurrence P), before[id]? = some rule → after[id]? = some rule

variable {definitions : Nat} {before middle after table : Table P}

/-- A table that keeps the rules of another is no smaller. -/
theorem Keeps.size_le (keeps : Keeps before after) : before.size ≤ after.size := by
  refine Nat.le_of_not_lt fun smaller => ?_
  have found := keeps _ _ (Array.getElem?_eq_getElem smaller)
  rw [Array.getElem?_eq_none (Nat.le_refl _)] at found
  contradiction

/-- A table with one more rule keeps the others. -/
theorem keeps_push (rule : Occurrence P) : Keeps table (table.push rule) := by
  intro id other found
  obtain ⟨inside, _⟩ := Array.getElem?_eq_some_iff.mp found
  rwa [Array.getElem?_push, if_neg (Nat.ne_of_lt inside)]

/-- A test that fits fits every table that keeps the rules. -/
theorem Fits.mono {test : Test P} (fits : Fits definitions before test)
    (keeps : Keeps before after) : Fits definitions after test := by
  refine ⟨fun target refers => ?_, fun part member => ?_⟩
  · rcases fits.reference target refers with definition | ⟨rule, definition, found, shared⟩
    · exact .inl definition
    · exact .inr ⟨rule, definition, keeps target rule found, shared⟩
  · obtain ⟨behind, inside⟩ := fits.parts part member
    exact ⟨behind, Nat.lt_of_lt_of_le inside keeps.size_le⟩

/-- A rule whose test fits may be added to a numbered table. -/
theorem IsNumbered.push (numbered : IsNumbered definitions table) {rule : Occurrence P}
    (fits : ∀ test, rule.body = .own test → Fits definitions table test)
    (shares : ∀ definition, rule.body = .shared definition → definition < definitions) :
    IsNumbered definitions (table.push rule) := by
  refine ⟨?_, ?_, ?_, ?_, ?_⟩
  · rw [Array.size_push]
    exact Nat.le_succ_of_le numbered.room
  · intro id other test found own
    rw [Array.getElem?_push] at found
    split at found
    · obtain rfl := Option.some.inj found
      exact (fits test own).mono (keeps_push rule)
    · exact (numbered.fits found own).mono (keeps_push rule)
  · intro id other test found own behind part member
    rw [Array.getElem?_push] at found
    split at found
    · rename_i last
      obtain rfl := Option.some.inj found
      exact last ▸ ((fits test own).parts part member).2
    · exact numbered.order found own behind part member
  · intro id target other found own behind
    rw [Array.getElem?_push] at found
    split at found
    · rename_i last
      obtain rfl := Option.some.inj found
      refine ((fits _ own).reference target rfl).imp_right fun ⟨sharer, _, stands, _⟩ => ?_
      exact last ▸ (Array.getElem?_eq_some_iff.mp stands).1
    · exact numbered.earlier found own behind
  · intro id definition other found shared
    rw [Array.getElem?_push] at found
    split at found
    · rename_i last
      obtain rfl := Option.some.inj found
      exact ⟨last ▸ numbered.room, shares definition shared⟩
    · exact numbered.shares found shared

/-- A definition whose test fits may be put in its place. -/
theorem IsNumbered.place (numbered : IsNumbered definitions table) {id : RuleId}
    (isDefinition : id < definitions) {rule : Occurrence P} {test : Test P}
    (own : rule.body = .own test) (fits : Fits definitions table test) :
    IsNumbered definitions (table.setIfInBounds id rule) := by
  have still : ∀ {other : Test P}, Fits definitions table other →
      Fits definitions (table.setIfInBounds id rule) other := by
    intro other fitting
    refine ⟨fun target refers => ?_, fun part member => ?_⟩
    · rcases fitting.reference target refers with definition | ⟨sharer, definition, found, shared⟩
      · exact .inl definition
      · by_cases same : id = target
        · exact .inl (same ▸ isDefinition)
        · rw [← Array.getElem?_setIfInBounds_ne same] at found
          exact .inr ⟨sharer, definition, found, shared⟩
    · rw [Array.size_setIfInBounds]
      exact fitting.parts part member
  refine ⟨?_, ?_, ?_, ?_, ?_⟩
  · rw [Array.size_setIfInBounds]
    exact numbered.room
  · intro number other otherTest found otherOwn
    rw [Array.getElem?_setIfInBounds] at found
    split at found
    · split at found
      · obtain rfl := Option.some.inj found
        obtain rfl := Body.own.inj (own.symm.trans otherOwn)
        exact still fits
      · contradiction
    · exact still (numbered.fits found otherOwn)
  · intro number other otherTest found otherOwn behind
    have different : id ≠ number := Nat.ne_of_lt (Nat.lt_of_lt_of_le isDefinition behind)
    rw [Array.getElem?_setIfInBounds_ne different] at found
    exact numbered.order found otherOwn behind
  · intro number target other found otherOwn behind
    have different : id ≠ number := Nat.ne_of_lt (Nat.lt_of_lt_of_le isDefinition behind)
    rw [Array.getElem?_setIfInBounds_ne different] at found
    exact numbered.earlier found otherOwn behind
  · intro number definition other found shared
    rw [Array.getElem?_setIfInBounds] at found
    split at found
    · split at found
      · obtain rfl := Option.some.inj found
        rw [own] at shared
        contradiction
      · contradiction
    · exact numbered.shares found shared

/-! ## Numbering a draft -/

/-- A result that depends on another comes from a result of that one. -/
theorem exists_of_bind_eq_ok {ε α β : Type} {first : Except ε α} {later : α → Except ε β}
    {result : β} (done : (first >>= later) = .ok result) :
    ∃ value, first = .ok value ∧ later value = .ok result := by
  cases first with
  | error fault => contradiction
  | ok value => exact ⟨value, rfl, done⟩

section Lowering

variable {given : List (String × Rule P)}

/-- A numbered table that came of another by adding rules. -/
structure Grown (definitions : Nat) (before after : Table P) : Prop where
  /-- The table is numbered. -/
  numbered : IsNumbered definitions after
  /-- It is no smaller. -/
  size_le : before.size ≤ after.size

/-- A numbered table has grown by nothing. -/
theorem Grown.refl (numbered : IsNumbered definitions table) : Grown definitions table table :=
  ⟨numbered, Nat.le_refl _⟩

/-- A table that has grown may be given one more rule whose test fits. -/
theorem Grown.push (grown : Grown definitions before table) {rule : Occurrence P} {test : Test P}
    (own : rule.body = .own test) (fits : Fits definitions table test) :
    Grown definitions before (table.push rule) := by
  refine ⟨grown.numbered.push (fun other otherOwn => ?_) (fun definition shared => ?_),
    Nat.le_trans grown.size_le (keeps_push rule).size_le⟩
  · exact Body.own.inj (own.symm.trans otherOwn) ▸ fits
  · rw [own] at shared
    contradiction

/-- Numbering a reference adds at most a rule that shares the test of a definition. -/
theorem lowerReference_fits {name : String} {behaviour : Option Behaviour}
    {annotations : Option Annotations} {test : Test P} (numbered : IsNumbered given.length before)
    (done : lowerReference given name behaviour annotations before = .ok (test, after)) :
    Grown given.length before after ∧ Fits given.length after test := by
  unfold lowerReference at done
  split at done
  · rename_i definition rule found _
    have isDefinition : definition < given.length :=
      (List.findIdx?_eq_some_iff_getElem.mp found).1
    split at done
    · obtain ⟨rfl, rfl⟩ := Prod.mk.inj (Except.ok.inj done)
      refine ⟨.refl numbered, fun target refers => ?_, nofun⟩
      exact .inl (Test.reference.inj refers ▸ isDefinition)
    · split at done
      · contradiction
      · obtain ⟨rfl, rfl⟩ := Prod.mk.inj (Except.ok.inj done)
        have shares : IsNumbered given.length
            (before.push (substitute name definition rule behaviour annotations)) :=
          numbered.push nofun fun other shared => Body.shared.inj shared ▸ isDefinition
        refine ⟨⟨shares, (keeps_push _).size_le⟩, fun target refers => ?_, nofun⟩
        obtain rfl := Test.reference.inj refers
        exact .inr ⟨_, definition, Array.getElem?_push_size, rfl⟩
  · contradiction

mutual
/-- Numbering a rule numbers its parts, and the rule may stand behind them. -/
theorem lower_fits {rule : Rule P} {occurrence : Occurrence P} {before after : Table P}
    (numbered : IsNumbered given.length before)
    (done : lower given rule before = .ok (occurrence, after)) :
    Grown given.length before after ∧
      ∃ test, occurrence.body = .own test ∧ Fits given.length after test := by
  cases rule with
  | mk behaviour annotations expression =>
    unfold lower at done
    obtain ⟨_, _, numbering⟩ := exists_of_bind_eq_ok done
    obtain ⟨⟨test, table⟩, lowered, same⟩ := exists_of_bind_eq_ok numbering
    obtain ⟨rfl, rfl⟩ := Prod.mk.inj (Except.ok.inj same)
    obtain ⟨grown, fits⟩ := lowerExpression_fits numbered lowered
    exact ⟨grown, test, rfl, fits⟩

/-- Numbering a test numbers its parts, and it fits behind them. -/
theorem lowerExpression_fits {expression : Expression P} {test : Test P} {before after : Table P}
    (numbered : IsNumbered given.length before)
    (done : lowerExpression given expression before = .ok (test, after)) :
    Grown given.length before after ∧ Fits given.length after test := by
  unfold lowerExpression at done
  cases expression with
  | terminal terminal =>
    obtain ⟨rfl, rfl⟩ := Prod.mk.inj (Except.ok.inj done)
    exact ⟨.refl numbered, nofun, nofun⟩
  | reference name behaviour annotations => exact lowerReference_fits numbered done
  | procedure steps =>
    obtain ⟨rfl, rfl⟩ := Prod.mk.inj (Except.ok.inj done)
    exact ⟨.refl numbered, nofun, nofun⟩
  | sequence rules =>
    obtain ⟨⟨parts, table⟩, lowered, same⟩ := exists_of_bind_eq_ok done
    obtain ⟨rfl, rfl⟩ := Prod.mk.inj (Except.ok.inj same)
    obtain ⟨grown, fits⟩ := lowerAll_fits numbered lowered
    exact ⟨grown, nofun, fits⟩
  | choice rules =>
    obtain ⟨⟨parts, table⟩, lowered, same⟩ := exists_of_bind_eq_ok done
    obtain ⟨rfl, rfl⟩ := Prod.mk.inj (Except.ok.inj same)
    obtain ⟨grown, fits⟩ := lowerAll_fits numbered lowered
    exact ⟨grown, nofun, fits⟩
  | group rule =>
    obtain ⟨⟨occurrence, table⟩, lowered, same⟩ := exists_of_bind_eq_ok done
    obtain ⟨rfl, rfl⟩ := Prod.mk.inj (Except.ok.inj same)
    obtain ⟨grown, test, own, fits⟩ := lower_fits numbered lowered
    have pushed : Grown given.length before (table.push occurrence) := grown.push own fits
    refine ⟨pushed, nofun, fun part member => ?_⟩
    obtain rfl := List.mem_singleton.mp member
    exact ⟨grown.numbered.room, Array.size_push _ ▸ Nat.lt_succ_self _⟩

/-- Numbering several rules gives them numbers behind the definitions. -/
theorem lowerAll_fits {rules : List (Rule P)} {parts : List RuleId} {before after : Table P}
    (numbered : IsNumbered given.length before)
    (done : lowerAll given rules before = .ok (parts, after)) :
    Grown given.length before after ∧
      ∀ part ∈ parts, given.length ≤ part ∧ part < after.size := by
  unfold lowerAll at done
  cases rules with
  | nil =>
    obtain ⟨rfl, rfl⟩ := Prod.mk.inj (Except.ok.inj done)
    exact ⟨.refl numbered, nofun⟩
  | cons rule rules =>
    obtain ⟨⟨occurrence, table⟩, lowered, rest⟩ := exists_of_bind_eq_ok done
    obtain ⟨⟨later, last⟩, loweredLater, same⟩ := exists_of_bind_eq_ok rest
    obtain ⟨rfl, rfl⟩ := Prod.mk.inj (Except.ok.inj same)
    obtain ⟨grown, test, own, fits⟩ := lower_fits numbered lowered
    have pushed : Grown given.length before (table.push occurrence) := grown.push own fits
    obtain ⟨further, behind⟩ := lowerAll_fits pushed.numbered loweredLater
    refine ⟨⟨further.numbered, Nat.le_trans pushed.size_le further.size_le⟩, fun part member => ?_⟩
    rcases List.mem_cons.mp member with rfl | member
    · have inside : table.size < (table.push occurrence).size :=
        Array.size_push _ ▸ Nat.lt_succ_self _
      exact ⟨grown.numbered.room, Nat.lt_of_lt_of_le inside further.size_le⟩
    · exact behind part member
end

/-- Numbering the definitions puts every one of them in its place. -/
theorem lowerDefinitions_isNumbered {later : List (String × Rule P)} {id : Nat}
    (numbered : IsNumbered given.length before) (places : id + later.length = given.length)
    (done : lowerDefinitions given id later before = .ok after) :
    IsNumbered given.length after := by
  induction later generalizing id before with
  | nil =>
    obtain rfl := Except.ok.inj done
    exact numbered
  | cons entry later ih =>
    obtain ⟨name, rule⟩ := entry
    unfold lowerDefinitions at done
    obtain ⟨⟨occurrence, table⟩, lowered, rest⟩ := exists_of_bind_eq_ok done
    obtain ⟨grown, test, own, fits⟩ := lower_fits numbered lowered
    rw [List.length_cons] at places
    have isDefinition : id < given.length := by omega
    have placed : IsNumbered given.length
        (table.setIfInBounds id { occurrence with name := some name }) :=
      grown.numbered.place isDefinition own fits
    refine ih placed ?_ rest
    omega

/-- The places kept for definitions are numbered before they are filled. -/
theorem isNumbered_places (count : Nat) :
    IsNumbered count (Array.replicate count (Occurrence.never : Occurrence P)) := by
  have nothing : ∀ {id : RuleId} {rule : Occurrence P} {test : Test P},
      (Array.replicate count Occurrence.never)[id]? = some rule → rule.body = .own test →
      test = .choice [] := by
    intro id rule test found own
    rw [Array.getElem?_replicate] at found
    split at found
    · obtain rfl := Option.some.inj found
      exact (Body.own.inj own).symm
    · contradiction
  refine ⟨Nat.le_of_eq Array.size_replicate.symm, ?_, ?_, ?_, ?_⟩
  · intro id rule test found own
    obtain rfl := nothing found own
    exact ⟨nofun, nofun⟩
  · intro id rule test found own
    obtain rfl := nothing found own
    exact fun _ => nofun
  · intro id target rule found own
    have other := nothing found own
    contradiction
  · intro id definition rule found shared
    rw [Array.getElem?_replicate] at found
    split at found
    · obtain rfl := Option.some.inj found
      contradiction
    · contradiction

end Lowering

end Draft

/-! ## Numbered grammars -/

namespace Grammar

/-- Whether no rule of a grammar shares the test of a definition. -/
def isUnshared (grammar : Grammar P) : Bool :=
  grammar.rules.toList.all fun rule =>
    match rule.body with
    | .own _ => true
    | .shared _ => false

/-- How far down a rule stands: definitions above all others, and these by their numbers. -/
def rank (grammar : Grammar P) (id : RuleId) : Nat :=
  if id < grammar.names.length then grammar.size else id

/-- A grammar in which rules stand for definitions, or for rules further down that share the test of
one, and parts stand further down. -/
structure IsOrdered (grammar : Grammar P) : Prop where
  /-- There are no more definitions than rules. -/
  names_le : grammar.names.length ≤ grammar.size
  /-- A rule that shares a test is no definition and shares that of one. -/
  shares : ∀ {id definition}, (grammar.rule id).body = .shared definition →
    grammar.names.length ≤ id ∧ definition < grammar.names.length
  /-- A reference leads to a definition, or further down to a rule that shares the test of one. -/
  refers : ∀ {id target}, (grammar.rule id).body = .own (.reference target) →
    target < grammar.names.length ∨ (target < grammar.size ∧
      grammar.rank target < grammar.rank id ∧
      ∃ definition, (grammar.rule target).body = .shared definition)
  /-- A part is in the table and no definition, and stands further down than the rule around it. -/
  contains : ∀ {id part}, part ∈ (grammar.rule id).parts →
    grammar.names.length ≤ part ∧ part < grammar.size ∧ grammar.rank part < grammar.rank id

/-- An ordered grammar in which nothing is shared. -/
structure IsNumbered (grammar : Grammar P) : Prop extends grammar.IsOrdered where
  /-- Every rule has a test of its own. -/
  own : ∀ id, (grammar.rule id).body = .own (grammar.testOf (grammar.rule id))

/-- What a rule of an ordered grammar stands for is a definition, or in the table further down. -/
theorem IsOrdered.target {grammar : Grammar P} (ordered : grammar.IsOrdered) {id target : RuleId}
    (stands : (grammar.rule id).target? = some target) : target < grammar.names.length ∨
      (target < grammar.size ∧ grammar.rank target < grammar.rank id) := by
  unfold Occurrence.target? at stands
  split at stands
  · rename_i other refers
    have same : other = target := Option.some.inj stands
    rw [same] at refers
    exact (ordered.refers refers).imp_right fun ⟨inside, lower, _⟩ => ⟨inside, lower⟩
  · rename_i definition shared
    have same : definition = target := Option.some.inj stands
    exact .inl (same ▸ (ordered.shares shared).2)
  · contradiction

/-- What a rule of an ordered grammar stands for is in the table. -/
theorem IsOrdered.target_lt {grammar : Grammar P} (ordered : grammar.IsOrdered) {id target : RuleId}
    (stands : (grammar.rule id).target? = some target) : target < grammar.size := by
  rcases ordered.target stands with isDefinition | ⟨inside, _⟩
  · exact Nat.lt_of_lt_of_le isDefinition ordered.names_le
  · exact inside

/-- A rule of a grammar has its number in the table, or is the one that never matches. -/
theorem rule_cases (grammar : Grammar P) (id : RuleId) :
    grammar.rules[id]? = some (grammar.rule id) ∨ grammar.rule id = .never := by
  unfold rule
  cases grammar.rules[id]? with
  | none => exact .inr rfl
  | some rule => exact .inl rfl

/-- A rule of a grammar in which nothing is shared has a test of its own. -/
theorem body_of_isUnshared {grammar : Grammar P} (unshared : grammar.isUnshared = true)
    (id : RuleId) : (grammar.rule id).body = .own (grammar.testOf (grammar.rule id)) := by
  have owned : ∃ test, (grammar.rule id).body = .own test := by
    rcases grammar.rule_cases id with found | never
    · have held := List.all_eq_true.mp unshared _ (Array.mem_of_getElem? found).val
      split at held
      · rename_i test own
        exact ⟨test, own⟩
      · contradiction
    · exact ⟨.choice [], never ▸ rfl⟩
  obtain ⟨test, own⟩ := owned
  unfold testOf
  rw [own]

end Grammar

namespace Draft

/-- A draft is built into the grammar that its definitions and its root are numbered to, if it has a
root, no name is repeated and there is no left recursion. -/
theorem build_eq_ok_iff {draft : Draft P} {grammar : Grammar P} :
    draft.build = .ok grammar ↔ ∃ root, draft.root = some root ∧
      firstRepeated [] draft.names = none ∧ draft.number root = .ok grammar ∧
      grammar.leftRecursion? = none := by
  unfold build
  constructor
  · intro built
    split at built
    · contradiction
    · contradiction
    · rename_i root rooted distinct
      obtain ⟨result, numbering, accepted⟩ := exists_of_bind_eq_ok built
      split at accepted
      · contradiction
      · rename_i acyclic
        have same : result = grammar := Except.ok.inj accepted
        subst same
        exact ⟨root, rooted, distinct, numbering, acyclic⟩
  · rintro ⟨root, rooted, distinct, numbering, acyclic⟩
    simp only [rooted, distinct, numbering, bind, Except.bind, acyclic]

/-- The names of a grammar that a draft is numbered to are those of the definitions. -/
theorem names_of_number {draft : Draft P} {root : Rule P} {grammar : Grammar P}
    (numbering : draft.number root = .ok grammar) : grammar.names = draft.names := by
  unfold number at numbering
  obtain ⟨table, -, rest⟩ := exists_of_bind_eq_ok numbering
  obtain ⟨⟨occurrence, last⟩, -, same⟩ := exists_of_bind_eq_ok rest
  exact Except.ok.inj same ▸ rfl

/-- The table of a grammar that a draft is numbered to is numbered. -/
theorem isNumbered_rules_of_number {draft : Draft P} {root : Rule P} {grammar : Grammar P}
    (numbering : draft.number root = .ok grammar) :
    IsNumbered grammar.names.length grammar.rules := by
  unfold number at numbering
  obtain ⟨table, filled, rest⟩ := exists_of_bind_eq_ok numbering
  obtain ⟨⟨occurrence, last⟩, lowered, same⟩ := exists_of_bind_eq_ok rest
  obtain rfl := Except.ok.inj same
  have placed := lowerDefinitions_isNumbered (isNumbered_places _) (Nat.zero_add _) filled
  obtain ⟨grown, test, own, fits⟩ := lower_fits placed lowered
  have pushed := (grown.push own fits).numbered
  have names : draft.names.length = draft.definitions.length := List.length_map _
  change IsNumbered draft.names.length (last.push occurrence)
  rwa [names]

/-- The table of a grammar that was built is numbered, and the grammar has no left recursion. -/
theorem isNumbered_rules_of_build {draft : Draft P} {grammar : Grammar P}
    (built : draft.build = .ok grammar) :
    IsNumbered grammar.names.length grammar.rules ∧ grammar.leftRecursion? = none := by
  obtain ⟨root, _, _, numbering, acyclic⟩ := build_eq_ok_iff.mp built
  exact ⟨isNumbered_rules_of_number numbering, acyclic⟩

/-- A grammar with a numbered table is ordered. -/
theorem IsNumbered.isOrdered {grammar : Grammar P}
    (numbered : IsNumbered grammar.names.length grammar.rules) : grammar.IsOrdered := by
  have lower : ∀ {id other : RuleId}, grammar.names.length ≤ other → other < grammar.size →
      (grammar.names.length ≤ id → other < id) → grammar.rank other < grammar.rank id := by
    intro id other behind inside first
    unfold Grammar.rank
    rw [if_neg (Nat.not_lt.mpr behind)]
    split
    · exact inside
    · rename_i isPart
      exact first (Nat.le_of_not_lt isPart)
  refine ⟨numbered.room, ?_, ?_, ?_⟩
  · intro id definition shared
    rcases grammar.rule_cases id with found | outside
    · exact numbered.shares found shared
    · rw [outside] at shared
      contradiction
  · intro id target refers
    rcases grammar.rule_cases id with found | outside
    · rcases (numbered.fits found refers).reference target rfl with
        isDefinition | ⟨rule, definition, stands, shared⟩
      · exact .inl isDefinition
      · have inside : target < grammar.size := (Array.getElem?_eq_some_iff.mp stands).1
        have behind := (numbered.shares stands shared).1
        have same : grammar.rule target = rule := by
          rw [Grammar.rule, stands, Option.getD_some]
        refine .inr ⟨inside, lower behind inside fun isPart => ?_, definition, same ▸ shared⟩
        exact (numbered.earlier found refers isPart).resolve_left (Nat.not_lt.mpr behind)
    · rw [outside] at refers
      have other : Test.choice [] = .reference target := Body.own.inj refers
      contradiction
  · intro id part member
    unfold Occurrence.parts at member
    split at member
    · rename_i test own
      rcases grammar.rule_cases id with found | outside
      · obtain ⟨behind, inside⟩ := (numbered.fits found own).parts part member
        have first := fun isPart => numbered.order found own isPart part member
        exact ⟨behind, inside, lower behind inside first⟩
      · rw [outside] at own
        have empty : Test.choice [] = test := Body.own.inj own
        rw [← empty] at member
        contradiction
    · contradiction

/-- A grammar that was built is ordered. -/
theorem isOrdered_of_build {draft : Draft P} {grammar : Grammar P}
    (built : draft.build = .ok grammar) : grammar.IsOrdered :=
  (isNumbered_rules_of_build built).1.isOrdered

/-- A grammar that was built and in which nothing is shared is numbered. -/
theorem isNumbered_of_build {draft : Draft P} {grammar : Grammar P}
    (built : draft.build = .ok grammar) (unshared : grammar.isUnshared = true) :
    grammar.IsNumbered :=
  ⟨isOrdered_of_build built, Grammar.body_of_isUnshared unshared⟩

end Draft

end Packrat
