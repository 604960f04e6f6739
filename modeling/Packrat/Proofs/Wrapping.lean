import Packrat.Proofs.DraftClass
import Packrat.Proofs.MirroredSearch
import Packrat.Proofs.Revision
import Packrat.Proofs.Validation

/-!
# Wrapping rules

A run of parts of a sequence may be wrapped in a sequence of its own, and any part in a group
(`Draft.Wraps`). Such a rule has no name and no token, so nothing that a build gives tells that it
is there: the rows of parts with and without it come to the same (`Draft.Wraps.test_mirrors`), and
so do the searches through them (`Draft.Wraps.tallies`). A draft can be built just if it can be with
some rules wrapped, and then both grammars build the same from every source
(`Constructor.build_wrapped`).
-/

namespace Packrat

variable {P : Type}

/-- The rule that matches another as its only part. -/
def Rule.group (rule : Rule P) : Rule P :=
  .ofExpression (.group rule)

mutual
/-- One rule is another with some rules in it wrapped. -/
inductive Rule.Wraps : Rule P → Rule P → Prop
  /-- The wrapped rules are in the expression; behaviour and annotations stay. -/
  | mk {behaviour : Behaviour} {annotations : Annotations} {expression wrapped : Expression P}
      (inside : Expression.Wraps expression wrapped) :
      Rule.Wraps (.mk behaviour annotations expression) (.mk behaviour annotations wrapped)

/-- One expression is another with some rules in it wrapped. -/
inductive Expression.Wraps : Expression P → Expression P → Prop
  /-- A run of parts of a sequence gives way to a sequence of them. -/
  | run {before run after : List (Rule P)} :
      Expression.Wraps (.sequence (before ++ run ++ after))
        (.sequence (before ++ Rule.sequence run :: after))
  /-- The wrapped rules are a part of a sequence or in it. -/
  | inSequence {rules wrapped : List (Rule P)} (inside : Rule.WrapsAmong rules wrapped) :
      Expression.Wraps (.sequence rules) (.sequence wrapped)
  /-- The wrapped rules are a part of a choice or in it. -/
  | inChoice {rules wrapped : List (Rule P)} (inside : Rule.WrapsAmong rules wrapped) :
      Expression.Wraps (.choice rules) (.choice wrapped)
  /-- The wrapped rules are the part of a group or in it. -/
  | inGroup {rule wrapped : Rule P} (inside : Rule.WrapsPart rule wrapped) :
      Expression.Wraps (.group rule) (.group wrapped)

/-- One part is another wrapped in a group, or with some rules in it wrapped. -/
inductive Rule.WrapsPart : Rule P → Rule P → Prop
  /-- The part gives way to a group around it. -/
  | grouped {rule : Rule P} : Rule.WrapsPart rule rule.group
  /-- The wrapped rules are in the part. -/
  | deeper {rule wrapped : Rule P} (inside : Rule.Wraps rule wrapped) : Rule.WrapsPart rule wrapped

/-- Several parts are others with one of them wrapped, or some rules in it. -/
inductive Rule.WrapsAmong : List (Rule P) → List (Rule P) → Prop
  /-- The wrapped rules are the first part or in it. -/
  | head {rule wrapped : Rule P} {later : List (Rule P)} (inside : Rule.WrapsPart rule wrapped) :
      Rule.WrapsAmong (rule :: later) (wrapped :: later)
  /-- The wrapped rules are a later part or in it. -/
  | tail {rule : Rule P} {later wrapped : List (Rule P)} (inside : Rule.WrapsAmong later wrapped) :
      Rule.WrapsAmong (rule :: later) (rule :: wrapped)
end

/-- One draft is another with some rules in it wrapped. -/
inductive Draft.Wraps : Draft P → Draft P → Prop
  /-- The wrapped rules are in the root. -/
  | root {definitions : List (String × Rule P)} {root wrapped : Rule P}
      (inside : root.Wraps wrapped) : Wraps ⟨definitions, some root⟩ ⟨definitions, some wrapped⟩
  /-- The wrapped rules are in a definition. -/
  | definition {earlier later : List (String × Rule P)} {name : String} {rule wrapped : Rule P}
      {root : Option (Rule P)} (inside : rule.Wraps wrapped) :
      Wraps ⟨earlier ++ (name, rule) :: later, root⟩ ⟨earlier ++ (name, wrapped) :: later, root⟩

/-! ## What wrapping keeps -/

/-- Several rules run no procedure if none of the first and none of the others does. -/
theorem Rule.areProcedureFree_append (rules later : List (Rule P)) :
    Rule.areProcedureFree (rules ++ later) =
      (Rule.areProcedureFree rules && Rule.areProcedureFree later) := by
  induction rules with
  | nil => rw [List.nil_append, Rule.areProcedureFree, Bool.true_and]
  | cons rule rest ih =>
    rw [List.cons_append, Rule.areProcedureFree, Rule.areProcedureFree, ih, Bool.and_assoc]

mutual
/-- Wrapping in a rule keeps whether it runs a procedure. -/
theorem Rule.Wraps.isProcedureFree {rule wrapped : Rule P} :
    rule.Wraps wrapped → wrapped.isProcedureFree = rule.isProcedureFree
  | .mk inside => by
    rw [Rule.isProcedureFree, Rule.isProcedureFree]
    exact inside.isProcedureFree

/-- Wrapping in an expression keeps whether it runs a procedure. -/
theorem Expression.Wraps.isProcedureFree {expression wrapped : Expression P} :
    expression.Wraps wrapped → wrapped.isProcedureFree = expression.isProcedureFree
  | .run => by
    simp only [Expression.isProcedureFree, Rule.areProcedureFree_append, Rule.areProcedureFree,
      Rule.sequence, Rule.ofExpression, Rule.isProcedureFree, Bool.and_assoc]
  | .inSequence inside => by
    rw [Expression.isProcedureFree, Expression.isProcedureFree]
    exact inside.areProcedureFree
  | .inChoice inside => by
    rw [Expression.isProcedureFree, Expression.isProcedureFree]
    exact inside.areProcedureFree
  | .inGroup inside => by
    rw [Expression.isProcedureFree, Expression.isProcedureFree]
    exact inside.isProcedureFree

/-- Wrapping a part or in it keeps whether it runs a procedure. -/
theorem Rule.WrapsPart.isProcedureFree {rule wrapped : Rule P} :
    rule.WrapsPart wrapped → wrapped.isProcedureFree = rule.isProcedureFree
  | .grouped => by
    rw [Rule.group, Rule.ofExpression, Rule.isProcedureFree, Expression.isProcedureFree]
  | .deeper inside => inside.isProcedureFree

/-- Wrapping one of several parts or in it keeps whether they run a procedure. -/
theorem Rule.WrapsAmong.areProcedureFree {rules wrapped : List (Rule P)} :
    Rule.WrapsAmong rules wrapped → Rule.areProcedureFree wrapped = Rule.areProcedureFree rules
  | .head inside => by
    rw [Rule.areProcedureFree, Rule.areProcedureFree, inside.isProcedureFree]
  | .tail inside => by
    rw [Rule.areProcedureFree, Rule.areProcedureFree, inside.areProcedureFree]
end

/-- Every rule of several, with every rule inside them, passes. -/
theorem Rule.forall_nestedAll_append {holds : Rule P → Prop} {rules later : List (Rule P)} :
    (∀ inner ∈ Rule.nestedAll (rules ++ later), holds inner) ↔
      (∀ inner ∈ Rule.nestedAll rules, holds inner) ∧
        ∀ inner ∈ Rule.nestedAll later, holds inner := by
  induction rules with
  | nil => simp [Rule.nestedAll]
  | cons rule rest ih =>
    simp only [List.cons_append, Rule.nestedAll, List.forall_mem_append, ih, and_assoc]

/-- A rule that matches parts and nothing else passes. -/
theorem Rule.passes_sequence (names : List String) (rules : List (Rule P)) :
    (Rule.sequence rules).Passes names :=
  ⟨rfl, trivial⟩

/-- A group passes. -/
theorem Rule.passes_group (names : List String) (rule : Rule P) : rule.group.Passes names :=
  ⟨rfl, trivial⟩

section Passing

variable {names : List String}

mutual
/-- Wrapping in a rule keeps whether it passes with every rule inside it. -/
theorem Rule.Wraps.passes_iff {rule wrapped : Rule P} :
    rule.Wraps wrapped → ((∀ inner ∈ rule.nested, inner.Passes names) ↔
      ∀ inner ∈ wrapped.nested, inner.Passes names)
  | @Rule.Wraps.mk _ behaviour annotations expression wrapped inside => by
    have outer : (Rule.mk behaviour annotations expression).Passes names ↔
        (Rule.mk behaviour annotations wrapped).Passes names := by
      cases inside <;> exact ⟨fun passes => ⟨passes.behaviour, trivial⟩,
        fun passes => ⟨passes.behaviour, trivial⟩⟩
    rw [Rule.nested, Rule.nested, List.forall_mem_cons, List.forall_mem_cons]
    exact and_congr outer inside.passes_iff

/-- Wrapping in an expression keeps whether every rule inside it passes. -/
theorem Expression.Wraps.passes_iff {expression wrapped : Expression P} :
    expression.Wraps wrapped → ((∀ inner ∈ expression.nested, inner.Passes names) ↔
      ∀ inner ∈ wrapped.nested, inner.Passes names)
  | @Expression.Wraps.run _ before run after => by
    have wrapper := Rule.passes_sequence names run
    simp only [Expression.nested, Rule.forall_nestedAll_append, Rule.nestedAll,
      List.forall_mem_append, Rule.sequence, Rule.ofExpression, Rule.nested,
      List.forall_mem_cons] at wrapper ⊢
    simp only [wrapper, true_and, and_assoc]
  | .inSequence inside => by
    rw [Expression.nested, Expression.nested]
    exact inside.passes_iff
  | .inChoice inside => by
    rw [Expression.nested, Expression.nested]
    exact inside.passes_iff
  | .inGroup inside => by
    rw [Expression.nested, Expression.nested]
    exact inside.passes_iff

/-- Wrapping a part or in it keeps whether it passes with every rule inside it. -/
theorem Rule.WrapsPart.passes_iff {rule wrapped : Rule P} :
    rule.WrapsPart wrapped → ((∀ inner ∈ rule.nested, inner.Passes names) ↔
      ∀ inner ∈ wrapped.nested, inner.Passes names)
  | .grouped => by
    have wrapper := Rule.passes_group names rule
    rw [Rule.group, Rule.ofExpression] at wrapper ⊢
    rw [Rule.nested, List.forall_mem_cons, Expression.nested, and_iff_right wrapper]
  | .deeper inside => inside.passes_iff

/-- Wrapping one of several parts or in it keeps whether they pass with every rule inside them. -/
theorem Rule.WrapsAmong.passes_iff {rules wrapped : List (Rule P)} :
    Rule.WrapsAmong rules wrapped → ((∀ inner ∈ Rule.nestedAll rules, inner.Passes names) ↔
      ∀ inner ∈ Rule.nestedAll wrapped, inner.Passes names)
  | .head inside => by
    rw [Rule.nestedAll, Rule.nestedAll, List.forall_mem_append, List.forall_mem_append,
      inside.passes_iff]
  | .tail inside => by
    rw [Rule.nestedAll, Rule.nestedAll, List.forall_mem_append, List.forall_mem_append,
      inside.passes_iff]
end

end Passing

namespace Draft

/-! ## Wrapped rules in the table -/

section Rendered

variable {given : List (String × Rule P)} {grammar : Grammar P}

/-- Rules one after the other stand under numbers one after the other. -/
theorem RendersAll.of_append {table : Table P} {rules later : List (Rule P)} {parts : List RuleId}
    (renders : RendersAll given table (rules ++ later) parts) :
    ∃ first rest, parts = first ++ rest ∧ RendersAll given table rules first ∧
      RendersAll given table later rest := by
  induction rules generalizing parts with
  | nil => exact ⟨[], parts, rfl, .nil, renders⟩
  | cons rule others ih =>
    cases renders with
    | @cons _ id _ _ part behind =>
      obtain ⟨first, rest, rfl, all, remaining⟩ := ih behind
      exact ⟨id :: first, rest, rfl, .cons part all, remaining⟩

/-- A sequence that stands in a table as a part wraps its parts. -/
theorem RendersPart.wraps_sequence {rules : List (Rule P)} {id : RuleId}
    (renders : RendersPart given grammar.rules (.sequence rules) id) :
    ∃ parts, grammar.Wraps id parts ∧ RendersAll given grammar.rules rules parts := by
  cases renders with
  | mk _ stands inside =>
    cases inside with
    | @sequence _ parts all =>
      have rule := rule_of_stands stands
      exact ⟨parts, ⟨by rw [rule], by rw [rule], by rw [rule], .inl (by rw [rule])⟩, all⟩

/-- A group that stands in a table as a part wraps its part. -/
theorem RendersPart.wraps_group {rule : Rule P} {id : RuleId}
    (renders : RendersPart given grammar.rules rule.group id) :
    ∃ part, grammar.Wraps id [part] ∧ RendersPart given grammar.rules rule part := by
  cases renders with
  | mk _ stands inside =>
    cases inside with
    | @group _ part inner =>
      have rule := rule_of_stands stands
      refine ⟨part, ⟨by rw [rule], by rw [rule], by rw [rule], .inr ⟨part, rfl, ?_⟩⟩, inner⟩
      rw [rule]

end Rendered

/-- One rule is another, or another with some rules in it wrapped. -/
def MayWrap (rule other : Rule P) : Prop :=
  rule = other ∨ rule.Wraps other

variable {draft wrapped : Draft P}

/-- Wrapping revises a draft. -/
theorem Wraps.revision (wraps : draft.Wraps wrapped) : Revision MayWrap draft wrapped where
  definitions := by
    have same : ∀ entries : List (String × Rule P),
        List.Forall₂ (fun entry other : String × Rule P => entry.1 = other.1 ∧
          MayWrap entry.2 other.2) entries entries :=
      fun entries => List.forall₂_same.mpr fun _ _ => ⟨rfl, .inl rfl⟩
    cases wraps with
    | root inside => exact same _
    | definition inside => exact List.rel_append (same _) (.cons ⟨rfl, .inr inside⟩ (same _))
  root := by
    cases wraps with
    | root inside => exact .some (.inr inside)
    | @definition _ _ _ _ _ root inside =>
      cases root with
      | none => exact .none
      | some rule => exact .some (.inl rfl)
  same _ := .inl rfl
  behaviour := by
    rintro _ _ (rfl | ⟨⟨⟩⟩)
    all_goals rfl
  annotations := by
    rintro _ _ (rfl | ⟨⟨⟩⟩)
    all_goals rfl

variable {left right : Grammar P}

/-- A part and what became of it come to the same. -/
theorem Wraps.row_of_part {rule other : Rule P} {part otherPart : RuleId}
    (inside : rule.WrapsPart other) (renders : RendersPart draft.definitions left.rules rule part)
    (rendersOther : RendersPart wrapped.definitions right.rules other otherPart) :
    Row left right (Counterpart MayWrap draft wrapped left right) [part] [otherPart] := by
  cases inside with
  | grouped =>
    obtain ⟨inner, wraps, inside⟩ := rendersOther.wraps_group
    exact .wrap wraps (.single (.part (.inl rfl) renders inside))
  | deeper inside => exact .single (.part (.inr inside) renders rendersOther)

/-- Parts and what became of them come to the same one by one. -/
theorem Wraps.rows_of_among (wraps : draft.Wraps wrapped) {rules others : List (Rule P)}
    {parts otherParts : List RuleId} (inside : Rule.WrapsAmong rules others)
    (renders : RendersAll draft.definitions left.rules rules parts)
    (rendersOther : RendersAll wrapped.definitions right.rules others otherParts) :
    List.Forall₂ (fun part other =>
      Row left right (Counterpart MayWrap draft wrapped left right) [part] [other])
      parts otherParts := by
  induction rules generalizing others parts otherParts with
  | nil => cases inside
  | cons rule later ih =>
    cases renders with
    | cons part rest =>
      cases inside with
      | head here =>
        cases rendersOther with
        | cons otherPart otherRest =>
          have same := wraps.revision.forall₂_same rest otherRest
          exact .cons (row_of_part here part otherPart) (same.imp fun _ _ => .single)
      | tail behind =>
        cases rendersOther with
        | cons otherPart otherRest =>
          exact .cons (.single (.part (.inl rfl) part otherPart)) (ih behind rest otherRest)

/-- The parts of a sequence come to the same with a run of them wrapped. -/
theorem Wraps.row_of_run (wraps : draft.Wraps wrapped) {before run after : List (Rule P)}
    {parts otherParts : List RuleId}
    (renders : RendersAll draft.definitions left.rules (before ++ run ++ after) parts)
    (rendersOther : RendersAll wrapped.definitions right.rules
      (before ++ Rule.sequence run :: after) otherParts) :
    Row left right (Counterpart MayWrap draft wrapped left right) parts otherParts := by
  obtain ⟨_, behind, rfl, upTo, rendersBehind⟩ := renders.of_append
  obtain ⟨front, inner, rfl, rendersFront, rendersRun⟩ := upTo.of_append
  obtain ⟨otherFront, _, rfl, otherRendersFront, rest⟩ := rendersOther.of_append
  cases rest with
  | cons wrapper otherRendersBehind =>
    obtain ⟨otherInner, isWrapper, otherRendersRun⟩ := wrapper.wraps_sequence
    have same := fun {rules parts otherParts} =>
      @Revision.forall₂_same _ MayWrap draft wrapped left right wraps.revision rules parts
        otherParts
    rw [List.append_assoc]
    exact .append (.of_forall₂ (same rendersFront otherRendersFront))
      (.wrapped isWrapper (.of_forall₂ (same rendersRun otherRendersRun))
        (.of_forall₂ (same rendersBehind otherRendersBehind)))

/-- Expressions of which one at most has some rules wrapped come to mirrored tests. -/
theorem Wraps.test_mirrors (wraps : draft.Wraps wrapped) {rule other : Rule P}
    {test otherTest : Test P} (may : MayWrap rule other)
    (renders : RendersTest draft.definitions left.rules rule.expression test)
    (rendersOther : RendersTest wrapped.definitions right.rules other.expression otherTest) :
    Test.Mirrors left right (Counterpart MayWrap draft wrapped left right) test otherTest := by
  rcases may with rfl | ⟨⟨inside⟩⟩
  · exact wraps.revision.same_mirrors id renders rendersOther
  · simp only [Rule.expression] at renders rendersOther
    cases inside with
    | run =>
      cases renders with
      | sequence all =>
        cases rendersOther with
        | sequence otherAll => exact .sequence (wraps.row_of_run all otherAll)
    | inSequence among =>
      cases renders with
      | sequence all =>
        cases rendersOther with
        | sequence otherAll => exact .sequence (.of_rows (wraps.rows_of_among among all otherAll))
    | inChoice among =>
      cases renders with
      | choice all =>
        cases rendersOther with
        | choice otherAll => exact .choice (wraps.rows_of_among among all otherAll)
    | inGroup inner =>
      cases renders with
      | group part =>
        cases rendersOther with
        | group otherPart => exact .group (row_of_part inner part otherPart)

/-! ## Wrapped drafts are built -/

/-- Grammars that a draft and the draft with some rules wrapped are numbered to are searched
alike. -/
theorem Wraps.tallies (wraps : draft.Wraps wrapped) {root other : Rule P}
    (rooted : draft.root = some root) (numbering : draft.number root = .ok left)
    (otherRooted : wrapped.root = some other) (otherNumbering : wrapped.number other = .ok right) :
    left.Tallies right (Counterpart MayWrap draft wrapped left right) := by
  have revision := wraps.revision
  have rendered := isRendered_of_number rooted numbering
  have otherRendered := isRendered_of_number otherRooted otherNumbering
  have ordered := (isNumbered_rules_of_number numbering).isOrdered
  have otherOrdered := (isNumbered_rules_of_number otherNumbering).isOrdered
  have names : left.names = right.names := by
    rw [names_of_number numbering, names_of_number otherNumbering, revision.names]
  have count : left.names.length = draft.definitions.length := by
    rw [names_of_number numbering, Draft.names, List.length_map]
  have otherCount : left.names.length = wrapped.definitions.length := by
    rw [count, revision.definitions.length_eq]
  refine ⟨congrArg List.length names, fun isDefinition => ?_, fun counterpart isDefinition => ?_,
    fun isDefinition => ?_, Counterpart.resembles revision rendered otherRendered,
    fun counterpart => ?_⟩
  · exact .definition (List.getElem?_eq_getElem (count ▸ isDefinition))
      (List.getElem?_eq_getElem (otherCount ▸ isDefinition))
  · -- parts and rules that share a test stand behind the definitions
    have apart : ∀ {id other : RuleId}, left.names.length ≤ id → left.names.length ≤ other →
        ¬ (id < left.names.length ∨ other < left.names.length) :=
      fun behind otherBehind => not_or.mpr ⟨Nat.not_lt.mpr behind, Nat.not_lt.mpr otherBehind⟩
    cases counterpart with
    | definition => rfl
    | part _ renders rendersOther =>
      cases renders with
      | mk behind =>
        cases rendersOther with
        | mk otherBehind =>
          exact absurd isDefinition (apart (count ▸ behind) (otherCount ▸ otherBehind))
    | substitute _ _ stands standsOther =>
      have behind := (ordered.shares (by rw [rule_of_stands stands]; rfl)).1
      have otherBehind := (otherOrdered.shares (by rw [rule_of_stands standsOther]; rfl)).1
      exact absurd isDefinition (apart behind (names ▸ otherBehind))
  · obtain ⟨_, stands, _⟩ :=
      rendered.definition (List.getElem?_eq_getElem (count ▸ isDefinition))
    rw [rule_of_stands stands]
    exact Option.some_ne_none _
  · rcases counterpart.cases revision rendered otherRendered with
      ⟨_, _, _, _, may, renders, rendersOther, own, otherOwn⟩ | ⟨_, linked, shared, otherShared⟩
    · rw [own, otherOwn]
      exact .own (wraps.test_mirrors may renders rendersOther)
    · rw [shared, otherShared]
      exact .shared linked

/-- Rules pass with every rule inside them just if those do that have some rules wrapped. -/
theorem passes_iff {names : List String} {rules others : List (Rule P)}
    (may : List.Forall₂ MayWrap rules others) :
    (∀ inner ∈ rules.flatMap Rule.nested, inner.Passes names) ↔
      ∀ inner ∈ others.flatMap Rule.nested, inner.Passes names := by
  induction may with
  | nil => exact Iff.rfl
  | cons first _ ih =>
    rw [List.flatMap_cons, List.flatMap_cons, List.forall_mem_append, List.forall_mem_append, ih]
    rcases first with rfl | wraps
    · exact Iff.rfl
    · rw [wraps.passes_iff]

/-- A draft can be numbered just if it can be with some rules wrapped. -/
theorem Wraps.number_iff (wraps : draft.Wraps wrapped) {root other : Rule P}
    (roots : MayWrap root other) :
    (∃ grammar, draft.number root = .ok grammar) ↔
      ∃ grammar, wrapped.number other = .ok grammar := by
  have revision := wraps.revision
  have definitions : List.Forall₂ MayWrap (draft.definitions.map (·.2))
      (wrapped.definitions.map (·.2)) := by
    rw [List.forall₂_map_left_iff, List.forall₂_map_right_iff]
    exact revision.definitions.imp fun _ _ same => same.2
  rw [number_isOk_iff, number_isOk_iff, everyRule, everyRule, revision.names]
  exact passes_iff (List.rel_append definitions (.cons roots .nil))

/-- A draft with a root can be built just if no name is repeated, it can be numbered, and there is
no left recursion in what it is numbered to. -/
theorem exists_build_iff {draft : Draft P} {root : Rule P} (rooted : draft.root = some root) :
    (∃ grammar, draft.build = .ok grammar) ↔ firstRepeated [] draft.names = none ∧
      ∃ grammar, draft.number root = .ok grammar ∧ grammar.leftRecursion? = none := by
  simp only [build_eq_ok_iff, rooted, Option.some.injEq, exists_eq_left', exists_and_left]

/-- A draft can be built just if it can be with some rules wrapped. -/
theorem Wraps.build_iff (wraps : draft.Wraps wrapped) :
    (∃ grammar, draft.build = .ok grammar) ↔ ∃ grammar, wrapped.build = .ok grammar := by
  rcases wraps.revision.roots with
    ⟨unrooted, otherUnrooted⟩ | ⟨root, other, rooted, otherRooted, roots⟩
  · simp [build_eq_ok_iff, unrooted, otherUnrooted]
  · have accepted : ∀ {left right}, draft.number root = .ok left →
        wrapped.number other = .ok right →
        (left.leftRecursion? = none ↔ right.leftRecursion? = none) := by
      intro left right numbering otherNumbering
      have tallies := wraps.tallies rooted numbering otherRooted otherNumbering
      exact tallies.leftRecursion?_eq_none_iff (isNumbered_rules_of_number numbering).isOrdered
        (isNumbered_rules_of_number otherNumbering).isOrdered
    rw [exists_build_iff rooted, exists_build_iff otherRooted, wraps.revision.names]
    refine and_congr_right fun _ => ⟨?_, ?_⟩
    · rintro ⟨left, numbering, acyclic⟩
      obtain ⟨right, otherNumbering⟩ := (wraps.number_iff roots).mp ⟨left, numbering⟩
      exact ⟨right, otherNumbering, (accepted numbering otherNumbering).mp acyclic⟩
    · rintro ⟨right, otherNumbering, acyclic⟩
      obtain ⟨left, numbering⟩ := (wraps.number_iff roots).mpr ⟨right, otherNumbering⟩
      exact ⟨left, numbering, (accepted numbering otherNumbering).mpr acyclic⟩

/-- Grammars built from a draft and from the draft with some rules wrapped mirror each other. -/
theorem Wraps.mirrors (wraps : draft.Wraps wrapped) (built : draft.build = .ok left)
    (rebuilt : wrapped.build = .ok right) (explained : left.explainsPins = true) :
    left.Mirrors right (Counterpart MayWrap draft wrapped left right) where
  root := by
    obtain ⟨root, rooted, _⟩ := build_eq_ok_iff.mp built
    exact wraps.revision.root_counterpart (isRendered_of_build built)
      (isRendered_of_build rebuilt) rooted
  rule := Counterpart.resembles wraps.revision (isRendered_of_build built)
    (isRendered_of_build rebuilt)
  test := Counterpart.test wraps.revision (isRendered_of_build built)
    (isRendered_of_build rebuilt) wraps.test_mirrors
  explained := fun _ => Grammar.isSome_error_of_pinned explained _

/-- Wrapping rules of a draft keeps whether it runs a procedure. -/
theorem Wraps.isProcedureFree (wraps : draft.Wraps wrapped) :
    wrapped.isProcedureFree = draft.isProcedureFree := by
  cases wraps with
  | root inside => simp only [Draft.isProcedureFree, Option.all_some, inside.isProcedureFree]
  | definition inside =>
    simp only [Draft.isProcedureFree, List.all_append, List.all_cons, inside.isProcedureFree]

end Draft

namespace Constructor

variable [Procedures P]

/-- Wrapping a run of parts of a sequence in a sequence of its own, or any part in a group, changes
nothing: the draft can be built just if it could, and if it is, runs no procedure and every pinned
rule has a message for its failure, then every build without a call limit gives the same tree or
error and leaves the same diagnostics. -/
theorem build_wrapped {draft wrapped : Draft P} (wraps : draft.Wraps wrapped) :
    ((∃ grammar, draft.build = .ok grammar) ↔ ∃ other, wrapped.build = .ok other) ∧
    ∀ grammar other, draft.build = .ok grammar → wrapped.build = .ok other →
      grammar.isProcedureFree = true → grammar.explainsPins = true →
      ∀ config : Config, config.callLimit = none → ∀ source : Source,
        ((make other config).build source).1.result =
            ((make grammar config).build source).1.result ∧
          ((make other config).build source).2.errors =
            ((make grammar config).build source).2.errors := by
  refine ⟨wraps.build_iff, ?_⟩
  intro grammar other built rebuilt free explained config unlimited source
  have otherFree : other.isProcedureFree = true := by
    rw [Draft.isProcedureFree_of_build rebuilt, wraps.isProcedureFree,
      ← Draft.isProcedureFree_of_build built]
    exact free
  have mirrors := wraps.mirrors built rebuilt explained
  obtain ⟨result, errors⟩ := mirrors.construct_unlimited free otherFree unlimited source
  exact ⟨result.symm, errors.symm⟩

/-- What a list has between its brackets: lists, with blanks around them that no node covers. -/
def spacedLists : List Rule :=
  [(Rule.literal " ").zeroOrMore.skip, (Rule.reference "list").zeroOrMore,
    (Rule.literal " ").zeroOrMore.skip]

/-- Lists in brackets with something between them; the closing bracket is recovered if it is
missing. -/
def listsOf (inner : List Rule) : Draft where
  definitions :=
    [("list", (Rule.sequence ([.literal "("] ++ inner ++
      [(Rule.literal ")").pin.error "no bracket"])).token (.named "list"))]
  root := some (.reference "list")

/-- A list with a list in it, whose own bracket is missing. -/
def openList : Source :=
  ⟨['(', ' ', '(', ' ', ')', ' ']⟩

/-- Settings with a small match cache. -/
def cached : Config :=
  Config.default.withCache 4 4

/-- An open list is built the same, with a match cache, where all between the brackets is a sequence
of its own. -/
theorem build_wrapped_lists : ∃ grammar other, (listsOf spacedLists).build = .ok grammar ∧
    (listsOf [.sequence spacedLists]).build = .ok other ∧
    ((make other cached).build openList).1.result =
      ((make grammar cached).build openList).1.result ∧
    ((make other cached).build openList).2.errors =
      ((make grammar cached).build openList).2.errors ∧
    ((make grammar cached).build openList).1.result.isOk = true ∧
    ((make grammar cached).build openList).2.errors = [⟨.point 6, "no bracket"⟩] := by
  have wraps : (listsOf spacedLists).Wraps (listsOf [.sequence spacedLists]) :=
    @Draft.Wraps.definition _ [] [] "list" _ _ _
      (.mk (@Expression.Wraps.run _ [.literal "("] spacedLists
        [(Rule.literal ")").pin.error "no bracket"]))
  have checked : (match (listsOf spacedLists).build with
      | .ok grammar => grammar.isProcedureFree && grammar.explainsPins &&
          ((make grammar cached).build openList).1.result.isOk &&
          ((make grammar cached).build openList).2.errors == [⟨.point 6, "no bracket"⟩]
      | .error _ => false) = true := by
    decide +kernel
  split at checked
  · rename_i grammar built
    simp only [Bool.and_eq_true, beq_iff_eq] at checked
    obtain ⟨⟨⟨free, explained⟩, succeeded⟩, errors⟩ := checked
    obtain ⟨builds, alike⟩ := build_wrapped wraps
    obtain ⟨other, rebuilt⟩ := builds.mp ⟨grammar, built⟩
    obtain ⟨result, same⟩ :=
      alike grammar other built rebuilt free explained cached rfl openList
    exact ⟨grammar, other, built, rebuilt, result, same, succeeded, errors⟩
  · exact absurd checked Bool.false_ne_true

end Constructor

end Packrat
