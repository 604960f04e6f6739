import Packrat.Proofs.Mirroring
import Packrat.Proofs.Rendering

/-!
# Drafts that differ in places

A draft is revised if its definitions keep their names and the root and every definition give way to
rules that match the same way, where the revision says which rules may stand for which
(`Draft.Revision`). Numbered, the rules of both drafts are counterparts of each other: definitions
with the same number, parts that may stand for each other, and rules that share the test of the same
definition (`Draft.Counterpart`). Counterparts resemble each other, and expressions that stay as
they are come to mirrored tests (`Draft.Revision.same_mirrors`), so what is left to say of a
revision is what becomes of the expressions that change (`Draft.Counterpart.test`).
-/

namespace Packrat.Draft

variable {P : Type} {may : Rule P → Rule P → Prop} {draft revised : Draft P}

/-- A draft and another in which every rule has given way to one that may stand for it. -/
structure Revision (may : Rule P → Rule P → Prop) (draft revised : Draft P) : Prop where
  /-- The definitions keep their names. -/
  definitions : List.Forall₂ (fun entry other : String × Rule P => entry.1 = other.1 ∧
    may entry.2 other.2) draft.definitions revised.definitions
  /-- The root gives way to one that may stand for it. -/
  root : Option.Rel may draft.root revised.root
  /-- A rule may stand for itself. -/
  same : ∀ rule, may rule rule
  /-- A rule that stands for another has its behaviour. -/
  behaviour : ∀ {rule other}, may rule other → rule.behaviour = other.behaviour
  /-- A rule that stands for another has its annotations. -/
  annotations : ∀ {rule other}, may rule other → rule.annotations = other.annotations

/-- The names of the definitions are the same. -/
theorem Revision.names (revision : Revision may draft revised) : draft.names = revised.names := by
  have names : List.Forall₂ Eq draft.names revised.names := by
    rw [Draft.names, Draft.names, List.forall₂_map_left_iff, List.forall₂_map_right_iff]
    exact revision.definitions.imp fun _ _ same => same.1
  rwa [List.forall₂_eq_eq_eq] at names

/-- Neither draft has a root, or the root of the one may stand for that of the other. -/
theorem Revision.roots (revision : Revision may draft revised) :
    (draft.root = none ∧ revised.root = none) ∨
      ∃ root other, draft.root = some root ∧ revised.root = some other ∧ may root other := by
  have roots := revision.root
  generalize draft.root = first at roots
  generalize revised.root = second at roots
  cases roots with
  | none => exact .inl ⟨rfl, rfl⟩
  | some stand => exact .inr ⟨_, _, rfl, rfl, stand⟩

/-- A name leads to the same number in both drafts. -/
theorem Revision.findIdx? (revision : Revision may draft revised) (name : String) :
    draft.definitions.findIdx? (·.1 == name) = revised.definitions.findIdx? (·.1 == name) := by
  have moved : ∀ draft : Draft P,
      draft.definitions.findIdx? (·.1 == name) = draft.names.findIdx? (· == name) := by
    intro draft
    rw [Draft.names, List.findIdx?_map]
    rfl
  rw [moved, moved, revision.names]

/-- The definitions with one number have the same name, and the later may stand for the earlier. -/
theorem Revision.definition_at (revision : Revision may draft revised) {index : RuleId}
    {entry other : String × Rule P} (listed : draft.definitions[index]? = some entry)
    (listedOther : revised.definitions[index]? = some other) :
    entry.1 = other.1 ∧ may entry.2 other.2 := by
  obtain ⟨inside, rfl⟩ := List.getElem?_eq_some_iff.mp listed
  obtain ⟨insideOther, rfl⟩ := List.getElem?_eq_some_iff.mp listedOther
  exact revision.definitions.get inside insideOther

/-! ## Counterparts -/

section Counterparts

variable (may) (draft revised : Draft P) (left right : Grammar P)

/-- A rule of a grammar and what became of it in the grammar of the revised draft. -/
inductive Counterpart : RuleId → RuleId → Prop
  /-- Definitions with the same number. -/
  | definition {index : RuleId} {entry other : String × Rule P}
      (listed : draft.definitions[index]? = some entry)
      (listedOther : revised.definitions[index]? = some other) : Counterpart index index
  /-- Parts of which one may stand for the other. -/
  | part {rule other : Rule P} {id otherId : RuleId} (stands : may rule other)
      (renders : RendersPart draft.definitions left.rules rule id)
      (rendersOther : RendersPart revised.definitions right.rules other otherId) :
      Counterpart id otherId
  /-- Rules that share the test of the same definition, replaced in the same way. -/
  | substitute {name : String} {definition id otherId : RuleId} {rule other : Rule P}
      {behaviour : Option Behaviour} {annotations : Option Annotations}
      (listed : draft.definitions[definition]? = some (name, rule))
      (listedOther : revised.definitions[definition]? = some (name, other))
      (stands : left.rules[id]? =
        some (Draft.substitute name definition rule behaviour annotations))
      (standsOther : right.rules[otherId]? =
        some (Draft.substitute name definition other behaviour annotations)) :
      Counterpart id otherId

end Counterparts

variable {left right : Grammar P} {related : RuleId → RuleId → Prop}

/-- A rule with a number in the table is the rule of the grammar with that number. -/
theorem rule_of_stands {grammar : Grammar P} {id : RuleId} {rule : Occurrence P}
    (stands : grammar.rules[id]? = some rule) : grammar.rule id = rule := by
  rw [Grammar.rule, stands, Option.getD_some]

/-- The test of a rule that shares that of a definition is what the definition's expression comes
to. -/
theorem IsRendered.testOf_substitute (rendered : draft.IsRendered left) {name : String}
    {definition : RuleId} {rule : Rule P}
    (listed : draft.definitions[definition]? = some (name, rule)) (behaviour : Option Behaviour)
    (annotations : Option Annotations) :
    RendersTest draft.definitions left.rules rule.expression
      (left.testOf (Draft.substitute name definition rule behaviour annotations)) := by
  obtain ⟨test, stands, renders⟩ := rendered.definition listed
  unfold Grammar.testOf
  simp only [Draft.substitute]
  rw [rule_of_stands stands]
  exact renders

/-- Rules that may stand for each other stand under numbers that are counterparts. -/
theorem Counterpart.forall₂ {rules others : List (Rule P)} {parts otherParts : List RuleId}
    (stand : List.Forall₂ may rules others)
    (renders : RendersAll draft.definitions left.rules rules parts)
    (rendersOther : RendersAll revised.definitions right.rules others otherParts) :
    List.Forall₂ (Counterpart may draft revised left right) parts otherParts := by
  induction stand generalizing parts otherParts with
  | nil =>
    cases renders
    cases rendersOther
    exact .nil
  | cons first later ih =>
    cases renders with
    | cons part rest =>
      cases rendersOther with
      | cons otherPart otherRest => exact .cons (.part first part otherPart) (ih rest otherRest)

/-- Rules that stay as they are stand under numbers that are counterparts. -/
theorem Revision.forall₂_same (revision : Revision may draft revised) {rules : List (Rule P)}
    {parts otherParts : List RuleId}
    (renders : RendersAll draft.definitions left.rules rules parts)
    (rendersOther : RendersAll revised.definitions right.rules rules otherParts) :
    List.Forall₂ (Counterpart may draft revised left right) parts otherParts :=
  Counterpart.forall₂ (List.forall₂_same.mpr fun rule _ => revision.same rule) renders rendersOther

/-- An expression that stays as it is comes to mirrored tests. -/
theorem Revision.same_mirrors (revision : Revision may draft revised)
    (kept : ∀ {id other}, Counterpart may draft revised left right id other → related id other)
    {expression : Expression P} {test otherTest : Test P}
    (renders : RendersTest draft.definitions left.rules expression test)
    (rendersOther : RendersTest revised.definitions right.rules expression otherTest) :
    Test.Mirrors left right related test otherTest := by
  cases renders with
  | terminal =>
    cases rendersOther
    exact .terminal
  | reference defined =>
    cases rendersOther with
    | reference otherDefined =>
      have inside := (List.findIdx?_eq_some_iff_getElem.mp defined).1
      have otherInside := (List.findIdx?_eq_some_iff_getElem.mp otherDefined).1
      rw [← revision.findIdx? _, defined] at otherDefined
      obtain rfl := Option.some.inj otherDefined
      exact .reference (kept (.definition (List.getElem?_eq_getElem inside)
        (List.getElem?_eq_getElem otherInside)))
    | substitute replaced => contradiction
  | substitute replaced defined found behind stands =>
    cases rendersOther with
    | reference => contradiction
    | substitute _ otherDefined otherFound _ otherStands =>
      have listed := getElem?_of_lookup defined found
      have otherListed := getElem?_of_lookup otherDefined otherFound
      rw [← revision.findIdx? _, defined] at otherDefined
      obtain rfl := Option.some.inj otherDefined
      exact .reference (kept (.substitute listed otherListed stands otherStands))
  | procedure =>
    cases rendersOther
    exact .procedure
  | sequence all =>
    cases rendersOther with
    | sequence otherAll =>
      exact .sequence (.of_forall₂ ((revision.forall₂_same all otherAll).imp fun _ _ => kept))
  | choice all =>
    cases rendersOther with
    | choice otherAll =>
      have parts := revision.forall₂_same all otherAll
      exact .choice (parts.imp fun _ _ linked => .single (kept linked))
  | group part =>
    cases rendersOther with
    | group otherPart => exact .group (.single (kept (.part (revision.same _) part otherPart)))

/-- Counterparts resemble each other. -/
theorem Counterpart.resembles (revision : Revision may draft revised)
    (rendered : draft.IsRendered left) (otherRendered : revised.IsRendered right)
    {id otherId : RuleId} (counterpart : Counterpart may draft revised left right id otherId) :
    (left.rule id).Resembles (right.rule otherId) := by
  cases counterpart with
  | definition listed listedOther =>
    obtain ⟨named, stand⟩ := revision.definition_at listed listedOther
    obtain ⟨_, stands, _⟩ := rendered.definition listed
    obtain ⟨_, otherStands, _⟩ := otherRendered.definition listedOther
    rw [rule_of_stands stands, rule_of_stands otherStands]
    exact ⟨congrArg some named, revision.behaviour stand, revision.annotations stand⟩
  | part stand renders rendersOther =>
    have behaviour := revision.behaviour stand
    have annotations := revision.annotations stand
    cases renders with
    | mk _ stands _ =>
      cases rendersOther with
      | mk _ otherStands _ =>
        rw [rule_of_stands stands, rule_of_stands otherStands]
        exact ⟨rfl, behaviour, annotations⟩
  | substitute listed listedOther stands standsOther =>
    have stand := (revision.definition_at listed listedOther).2
    rw [rule_of_stands stands, rule_of_stands standsOther]
    simp only [Draft.substitute, revision.behaviour stand, revision.annotations stand]
    exact ⟨rfl, rfl, rfl⟩

/-- Counterparts have tests of their own, that rules which may stand for each other come to, or
share that of the definition with one number. -/
theorem Counterpart.cases (revision : Revision may draft revised)
    (rendered : draft.IsRendered left) (otherRendered : revised.IsRendered right)
    {id otherId : RuleId} (counterpart : Counterpart may draft revised left right id otherId) :
    (∃ rule other test otherTest, may rule other ∧
      RendersTest draft.definitions left.rules rule.expression test ∧
      RendersTest revised.definitions right.rules other.expression otherTest ∧
      (left.rule id).body = .own test ∧ (right.rule otherId).body = .own otherTest) ∨
    ∃ definition, Counterpart may draft revised left right definition definition ∧
      (left.rule id).body = .shared definition ∧
      (right.rule otherId).body = .shared definition := by
  cases counterpart with
  | definition listed listedOther =>
    obtain ⟨test, stands, renders⟩ := rendered.definition listed
    obtain ⟨otherTest, otherStands, rendersOther⟩ := otherRendered.definition listedOther
    rw [rule_of_stands stands, rule_of_stands otherStands]
    exact .inl ⟨_, _, test, otherTest, (revision.definition_at listed listedOther).2, renders,
      rendersOther, rfl, rfl⟩
  | part stand renders rendersOther =>
    cases renders with
    | mk _ stands inside =>
      cases rendersOther with
      | mk _ otherStands otherInside =>
        rw [rule_of_stands stands, rule_of_stands otherStands]
        exact .inl ⟨_, _, _, _, stand, inside, otherInside, rfl, rfl⟩
  | substitute listed listedOther stands standsOther =>
    rw [rule_of_stands stands, rule_of_stands standsOther]
    exact .inr ⟨_, .definition listed listedOther, rfl, rfl⟩

/-- Counterparts have mirrored tests, if rules that may stand for each other have. -/
theorem Counterpart.test (revision : Revision may draft revised)
    (rendered : draft.IsRendered left) (otherRendered : revised.IsRendered right)
    (tests : ∀ {rule other test otherTest}, may rule other →
      RendersTest draft.definitions left.rules rule.expression test →
      RendersTest revised.definitions right.rules other.expression otherTest →
      Test.Mirrors left right related test otherTest)
    {id otherId : RuleId} (counterpart : Counterpart may draft revised left right id otherId) :
    Test.Mirrors left right related (left.testOf (left.rule id))
      (right.testOf (right.rule otherId)) := by
  unfold Grammar.testOf
  rcases counterpart.cases revision rendered otherRendered with
    ⟨_, _, _, _, stand, renders, rendersOther, own, otherOwn⟩ | ⟨_, defined, shared, otherShared⟩
  · rw [own, otherOwn]
    exact tests stand renders rendersOther
  · rw [shared, otherShared]
    simp only
    rcases defined.cases revision rendered otherRendered with
      ⟨_, _, _, _, stand, renders, rendersOther, own, otherOwn⟩ | ⟨_, _, shared, otherShared⟩
    · rw [own, otherOwn]
      exact tests stand renders rendersOther
    · rw [shared, otherShared]
      exact .choice .nil

/-- The roots are counterparts. -/
theorem Revision.root_counterpart (revision : Revision may draft revised)
    (rendered : draft.IsRendered left) (otherRendered : revised.IsRendered right) {root : Rule P}
    (rooted : draft.root = some root) :
    Counterpart may draft revised left right left.root right.root := by
  rcases revision.roots with ⟨unrooted, _⟩ | ⟨_, _, found, otherRooted, stand⟩
  · rw [rooted] at unrooted
    contradiction
  · exact .part stand (rendered.root found) (otherRendered.root otherRooted)

end Packrat.Draft
