import Packrat.Proofs.DraftClass
import Packrat.Proofs.Revision

/-!
# Inlining references

A reference may replace the behaviour or the annotations of the definition it leads to. Putting in
its place a group around the definition as it is replaced (`Draft.Inlines`) changes nothing that a
build gives: the rule that shares the definition's test and the copy in the group mirror each other
(`Draft.InlinedCounterpart`), and so do all rules around them (`Draft.Inlines.mirrors`).
-/

namespace Packrat

variable {P : Type}

/-- The definition with the behaviour and the annotations that a reference gives it. -/
def Rule.replacedBy (definition : Rule P) (behaviour : Option Behaviour)
    (annotations : Option Annotations) : Rule P :=
  .mk (behaviour.getD definition.behaviour) (annotations.getD definition.annotations)
    definition.expression

section Inlines

variable (given : List (String × Rule P))

mutual
/-- One rule is another with one reference in it inlined. -/
inductive Rule.Inlines : Rule P → Rule P → Prop
  /-- The reference is in the expression; behaviour and annotations stay. -/
  | mk {behaviour : Behaviour} {annotations : Annotations} {expression inlined : Expression P}
      (inside : Expression.Inlines expression inlined) :
      Rule.Inlines (.mk behaviour annotations expression) (.mk behaviour annotations inlined)

/-- One expression is another with one reference in it inlined. -/
inductive Expression.Inlines : Expression P → Expression P → Prop
  /-- A reference that replaces something gives way to a group around the replaced definition. -/
  | here {name : String} {behaviour : Option Behaviour} {annotations : Option Annotations}
      {definition : Rule P} (replaces : (behaviour.isSome || annotations.isSome) = true)
      (found : given.lookup name = some definition) :
      Expression.Inlines (.reference name behaviour annotations)
        (.group (definition.replacedBy behaviour annotations))
  /-- The reference is in a part of a sequence. -/
  | inSequence {rules inlined : List (Rule P)} (inside : Rule.InlinesAmong rules inlined) :
      Expression.Inlines (.sequence rules) (.sequence inlined)
  /-- The reference is in a part of a choice. -/
  | inChoice {rules inlined : List (Rule P)} (inside : Rule.InlinesAmong rules inlined) :
      Expression.Inlines (.choice rules) (.choice inlined)
  /-- The reference is in a group. -/
  | inGroup {rule inlined : Rule P} (inside : Rule.Inlines rule inlined) :
      Expression.Inlines (.group rule) (.group inlined)

/-- Several rules are others with one reference in one of them inlined. -/
inductive Rule.InlinesAmong : List (Rule P) → List (Rule P) → Prop
  /-- The reference is in the first rule. -/
  | head {rule inlined : Rule P} {later : List (Rule P)} (inside : Rule.Inlines rule inlined) :
      Rule.InlinesAmong (rule :: later) (inlined :: later)
  /-- The reference is in a later rule. -/
  | tail {rule : Rule P} {later inlined : List (Rule P)}
      (inside : Rule.InlinesAmong later inlined) :
      Rule.InlinesAmong (rule :: later) (rule :: inlined)
end

end Inlines

/-- One draft is another with one reference in it inlined. -/
inductive Draft.Inlines : Draft P → Draft P → Prop
  /-- The reference is in the root. -/
  | root {definitions : List (String × Rule P)} {root inlined : Rule P}
      (inside : root.Inlines definitions inlined) :
      Inlines ⟨definitions, some root⟩ ⟨definitions, some inlined⟩
  /-- The reference is in a definition. -/
  | definition {earlier later : List (String × Rule P)} {name : String} {rule inlined : Rule P}
      {root : Option (Rule P)} (inside : rule.Inlines (earlier ++ (name, rule) :: later) inlined) :
      Inlines ⟨earlier ++ (name, rule) :: later, root⟩ ⟨earlier ++ (name, inlined) :: later, root⟩

/-! ## At most one reference inlined -/

section MayInline

variable {given : List (String × Rule P)}

/-- One rule is another, or another with one reference in it inlined. -/
def Rule.MayInline (given : List (String × Rule P)) (rule other : Rule P) : Prop :=
  rule = other ∨ rule.Inlines given other

/-- One expression is another, or another with one reference in it inlined. -/
def Expression.MayInline (given : List (String × Rule P))
    (expression other : Expression P) : Prop :=
  expression = other ∨ expression.Inlines given other

/-- Inlining in a rule keeps its behaviour and its annotations, and inlines in its expression. -/
theorem Rule.MayInline.parts {rule other : Rule P} (may : rule.MayInline given other) :
    rule.behaviour = other.behaviour ∧ rule.annotations = other.annotations ∧
      rule.expression.MayInline given other.expression := by
  rcases may with rfl | inlines
  · exact ⟨rfl, rfl, .inl rfl⟩
  · cases inlines with
    | mk inside => exact ⟨rfl, rfl, .inr inside⟩

/-- The same rules are pairwise the same. -/
theorem Rule.forall₂_mayInline_refl (rules : List (Rule P)) :
    List.Forall₂ (Rule.MayInline given) rules rules :=
  List.forall₂_same.mpr fun _ _ => .inl rfl

/-- Inlining in one of several rules keeps the others. -/
theorem Rule.InlinesAmong.forall₂ {rules others : List (Rule P)} :
    Rule.InlinesAmong given rules others → List.Forall₂ (Rule.MayInline given) rules others
  | .head inside => .cons (.inr inside) (Rule.forall₂_mayInline_refl _)
  | .tail inside => .cons (.inl rfl) inside.forall₂

/-- A definition runs a procedure whatever behaviour and annotations it is given. -/
theorem Rule.isProcedureFree_replacedBy (definition : Rule P) (behaviour : Option Behaviour)
    (annotations : Option Annotations) :
    (definition.replacedBy behaviour annotations).isProcedureFree = definition.isProcedureFree := by
  cases definition with
  | mk => rw [Rule.replacedBy, Rule.isProcedureFree, Rule.isProcedureFree, Rule.expression]

mutual
/-- Inlining in a rule brings no procedure into it that is in no definition. -/
theorem Rule.Inlines.isProcedureFree (defined : ∀ {name rule}, given.lookup name = some rule →
    rule.isProcedureFree = true) {rule other : Rule P} :
    rule.Inlines given other → rule.isProcedureFree = true → other.isProcedureFree = true
  | .mk inside, free => by
    rw [Rule.isProcedureFree] at free ⊢
    exact inside.isProcedureFree defined free

/-- Inlining in an expression brings no procedure into it that is in no definition. -/
theorem Expression.Inlines.isProcedureFree (defined : ∀ {name rule},
    given.lookup name = some rule → rule.isProcedureFree = true) {expression other : Expression P} :
    expression.Inlines given other → expression.isProcedureFree = true →
      other.isProcedureFree = true
  | .here _ found, _ => by
    rw [Expression.isProcedureFree, Rule.isProcedureFree_replacedBy]
    exact defined found
  | .inSequence inside, free => by
    rw [Expression.isProcedureFree] at free ⊢
    exact inside.areProcedureFree defined free
  | .inChoice inside, free => by
    rw [Expression.isProcedureFree] at free ⊢
    exact inside.areProcedureFree defined free
  | .inGroup inside, free => by
    rw [Expression.isProcedureFree] at free ⊢
    exact inside.isProcedureFree defined free

/-- Inlining in one of several rules brings no procedure into them that is in no definition. -/
theorem Rule.InlinesAmong.areProcedureFree (defined : ∀ {name rule},
    given.lookup name = some rule → rule.isProcedureFree = true) {rules others : List (Rule P)} :
    Rule.InlinesAmong given rules others → Rule.areProcedureFree rules = true →
      Rule.areProcedureFree others = true
  | .head inside, free => by
    rw [Rule.areProcedureFree, Bool.and_eq_true] at free ⊢
    exact ⟨inside.isProcedureFree defined free.1, free.2⟩
  | .tail inside, free => by
    rw [Rule.areProcedureFree, Bool.and_eq_true] at free ⊢
    exact ⟨free.1, inside.areProcedureFree defined free.2⟩
end

end MayInline

namespace Draft

variable {draft inlined : Draft P}

/-- Inlining in a draft keeps the names of its definitions, and inlines at most once in each. -/
theorem Inlines.definitions (inlines : draft.Inlines inlined) :
    List.Forall₂ (fun entry other : String × Rule P => entry.1 = other.1 ∧
      entry.2.MayInline draft.definitions other.2) draft.definitions inlined.definitions := by
  have same : ∀ entries : List (String × Rule P),
      List.Forall₂ (fun entry other : String × Rule P => entry.1 = other.1 ∧
        entry.2.MayInline draft.definitions other.2) entries entries :=
    fun entries => List.forall₂_same.mpr fun _ _ => ⟨rfl, .inl rfl⟩
  cases inlines with
  | root inside => exact same _
  | definition inside => exact List.rel_append (same _) (.cons ⟨rfl, .inr inside⟩ (same _))

/-- Inlining in a draft without procedures gives one without procedures. -/
theorem Inlines.isProcedureFree (inlines : draft.Inlines inlined)
    (free : draft.isProcedureFree = true) : inlined.isProcedureFree = true := by
  rw [Draft.isProcedureFree, Bool.and_eq_true] at free ⊢
  obtain ⟨definitions, root⟩ := free
  have defined : ∀ {name rule}, draft.definitions.lookup name = some rule →
      rule.isProcedureFree = true := by
    intro name rule found
    obtain ⟨_, _, split, -⟩ := List.lookup_eq_some_iff.mp found
    exact List.all_eq_true.mp definitions (name, rule) (by rw [split]; simp)
  cases inlines with
  | root inside => exact ⟨definitions, inside.isProcedureFree defined root⟩
  | definition inside =>
    refine ⟨?_, root⟩
    rw [List.all_append, List.all_cons, Bool.and_eq_true, Bool.and_eq_true] at definitions ⊢
    obtain ⟨before, here, behind⟩ := definitions
    exact ⟨before, inside.isProcedureFree defined here, behind⟩

/-- Inlining revises a draft. -/
theorem Inlines.revision (inlines : draft.Inlines inlined) :
    Revision (Rule.MayInline draft.definitions) draft inlined where
  definitions := inlines.definitions
  root := by
    cases inlines with
    | root inside => exact .some (.inr inside)
    | @definition _ _ _ _ _ root inside =>
      cases root with
      | none => exact .none
      | some rule => exact .some (.inl rfl)
  same _ := .inl rfl
  behaviour may := may.parts.1
  annotations may := may.parts.2.1

/-! ## Copies -/

variable {left right : Grammar P}

/-- A rule of a grammar and what became of it in the grammar with a reference inlined. -/
inductive InlinedCounterpart (draft inlined : Draft P) (left right : Grammar P) :
    RuleId → RuleId → Prop
  /-- The rule was kept, with at most one reference inlined. -/
  | kept {id otherId : RuleId} (counterpart :
      Counterpart (Rule.MayInline draft.definitions) draft inlined left right id otherId) :
      InlinedCounterpart draft inlined left right id otherId
  /-- The rule shares the test of a definition, and a copy of the definition is in its place. -/
  | copy {name : String} {definition id otherId : RuleId} {rule : Rule P}
      {behaviour : Option Behaviour} {annotations : Option Annotations}
      (listed : draft.definitions[definition]? = some (name, rule))
      (stands : left.rules[id]? =
        some (Draft.substitute name definition rule behaviour annotations))
      (renders : RendersPart inlined.definitions right.rules
        (rule.replacedBy behaviour annotations) otherId) :
      InlinedCounterpart draft inlined left right id otherId

/-- Expressions of which one at most has a reference inlined come to mirrored tests. -/
theorem Inlines.test_mirrors (inlines : draft.Inlines inlined) {expression other : Expression P}
    {test otherTest : Test P} (may : expression.MayInline draft.definitions other)
    (renders : RendersTest draft.definitions left.rules expression test)
    (rendersOther : RendersTest inlined.definitions right.rules other otherTest) :
    Test.Mirrors left right (InlinedCounterpart draft inlined left right) test otherTest := by
  rcases may with rfl | inside
  · exact inlines.revision.same_mirrors .kept renders rendersOther
  · cases inside with
    | here replaces found =>
      cases renders with
      | reference => contradiction
      | substitute _ defined foundHere _ stands =>
        obtain rfl := Option.some.inj (found.symm.trans foundHere)
        cases rendersOther with
        | group part => exact .inlined (.copy (getElem?_of_lookup defined found) stands part)
    | inSequence among =>
      cases renders with
      | sequence all =>
        cases rendersOther with
        | sequence otherAll =>
          have parts := Counterpart.forall₂ among.forall₂ all otherAll
          exact .sequence (.of_forall₂ (parts.imp fun _ _ => .kept))
    | inChoice among =>
      cases renders with
      | choice all =>
        cases rendersOther with
        | choice otherAll =>
          have parts := Counterpart.forall₂ among.forall₂ all otherAll
          exact .choice (parts.imp fun _ _ linked => .single (.kept linked))
    | inGroup rule =>
      cases renders with
      | group part =>
        cases rendersOther with
        | group otherPart => exact .group (.single (.kept (.part (.inr rule) part otherPart)))

/-- Counterparts resemble each other. -/
theorem InlinedCounterpart.resembles (inlines : draft.Inlines inlined)
    (rendered : draft.IsRendered left) (otherRendered : inlined.IsRendered right)
    {id otherId : RuleId} (counterpart : InlinedCounterpart draft inlined left right id otherId) :
    (left.rule id).Resembles (right.rule otherId) := by
  cases counterpart with
  | kept counterpart => exact counterpart.resembles inlines.revision rendered otherRendered
  | copy listed stands renders =>
    cases renders with
    | mk _ otherStands _ =>
      rw [rule_of_stands stands, rule_of_stands otherStands]
      exact ⟨rfl, rfl, rfl⟩

/-- Counterparts have mirrored tests. -/
theorem InlinedCounterpart.test (inlines : draft.Inlines inlined)
    (rendered : draft.IsRendered left) (otherRendered : inlined.IsRendered right)
    {id otherId : RuleId} (counterpart : InlinedCounterpart draft inlined left right id otherId) :
    Test.Mirrors left right (InlinedCounterpart draft inlined left right)
      (left.testOf (left.rule id)) (right.testOf (right.rule otherId)) := by
  cases counterpart with
  | kept counterpart =>
    exact counterpart.test inlines.revision rendered otherRendered
      fun may => inlines.test_mirrors may.parts.2.2
  | copy listed stands renders =>
    cases renders with
    | mk _ otherStands inside =>
      rw [rule_of_stands stands, rule_of_stands otherStands]
      exact inlines.revision.same_mirrors .kept (rendered.testOf_substitute listed _ _) inside

/-- Grammars built from a draft and from the draft with a reference inlined mirror each other. -/
theorem Inlines.mirrors (inlines : draft.Inlines inlined) (built : draft.build = .ok left)
    (rebuilt : inlined.build = .ok right) (explained : left.explainsPins = true) :
    left.Mirrors right (InlinedCounterpart draft inlined left right) where
  root := by
    obtain ⟨root, rooted, _⟩ := build_eq_ok_iff.mp built
    exact .kept (inlines.revision.root_counterpart (isRendered_of_build built)
      (isRendered_of_build rebuilt) rooted)
  rule := InlinedCounterpart.resembles inlines (isRendered_of_build built)
    (isRendered_of_build rebuilt)
  test := InlinedCounterpart.test inlines (isRendered_of_build built)
    (isRendered_of_build rebuilt)
  explained := fun _ => Grammar.isSome_error_of_pinned explained _

end Draft

namespace Constructor

variable [Procedures P]

/-- Inlining a reference of a draft without procedures, in whose grammar every pinned rule has a
message for its failure, changes neither the tree or the error of any build without a cache and a
call limit nor the diagnostics it leaves. -/
theorem build_inlined {draft inlined : Draft P} {grammar other : Grammar P}
    (inlines : draft.Inlines inlined) (built : draft.build = .ok grammar)
    (rebuilt : inlined.build = .ok other) (free : grammar.isProcedureFree = true)
    (explained : grammar.explainsPins = true) (source : Source) :
    ((make other .default).build source).1.result =
        ((make grammar .default).build source).1.result ∧
      ((make other .default).build source).2.errors =
        ((make grammar .default).build source).2.errors := by
  have draftFree := (Draft.isProcedureFree_of_build built).mp free
  have otherFree := (Draft.isProcedureFree_of_build rebuilt).mpr (inlines.isProcedureFree draftFree)
  have mirrors := inlines.mirrors built rebuilt explained
  obtain ⟨result, errors⟩ := mirrors.construct free otherFree source
  exact ⟨result.symm, errors.symm⟩

/-- A list in brackets around lists that an expression matches; the closing bracket is recovered if
it is missing. -/
def bracketed (inner : Expression P) : Rule P :=
  (Rule.sequence
    [.literal "(", .ofExpression inner, (Rule.literal ")").pin.error "no bracket"]).token
    (.named "list")

/-- The reference of a list to the lists in it: as many as there are, under another name. -/
def innerLists : Expression :=
  .reference "list" (some ⟨.structural (.named "inner"), .zeroOrMore, false, false⟩) none

/-- A draft of lists in lists. -/
def lists : Draft where
  definitions := [("list", bracketed innerLists)]
  root := some (.reference "list")

/-- The draft with the reference in a list inlined: a list holds lists that refer to lists. -/
def listsInlined : Draft where
  definitions :=
    [("list", bracketed (.group ((bracketed innerLists).replacedBy
      (some ⟨.structural (.named "inner"), .zeroOrMore, false, false⟩) none)))]
  root := some (.reference "list")

/-- A list with a list in it whose bracket is missing is built the same with the reference in its
definition inlined. -/
theorem build_inlined_lists : ∃ grammar other, lists.build = .ok grammar ∧
    listsInlined.build = .ok other ∧
    ((make other .default).build ⟨['(', '(', ')', '(']⟩).1.result =
      ((make grammar .default).build ⟨['(', '(', ')', '(']⟩).1.result ∧
    ((make other .default).build ⟨['(', '(', ')', '(']⟩).2.errors =
      ((make grammar .default).build ⟨['(', '(', ')', '(']⟩).2.errors ∧
    ((make grammar .default).build ⟨['(', '(', ')', '(']⟩).1.result.isOk = true ∧
    ((make grammar .default).build ⟨['(', '(', ')', '(']⟩).2.errors =
      [⟨.point 4, "no bracket"⟩, ⟨.point 4, "no bracket"⟩] := by
  have inlines : lists.Inlines listsInlined :=
    @Draft.Inlines.definition _ [] [] "list" _ _ _
      (.mk (.inSequence (.tail (.head (.mk (.here rfl rfl))))))
  have checked : (match lists.build, listsInlined.build with
      | .ok grammar, .ok _ => grammar.isProcedureFree && grammar.explainsPins &&
          ((make grammar .default).build ⟨['(', '(', ')', '(']⟩).1.result.isOk &&
          ((make grammar .default).build ⟨['(', '(', ')', '(']⟩).2.errors ==
            [⟨.point 4, "no bracket"⟩, ⟨.point 4, "no bracket"⟩]
      | _, _ => false) = true := by
    decide +kernel
  split at checked
  · rename_i grammar other built rebuilt
    simp only [Bool.and_eq_true, beq_iff_eq] at checked
    obtain ⟨⟨⟨free, explained⟩, succeeded⟩, errors⟩ := checked
    obtain ⟨result, same⟩ := build_inlined inlines built rebuilt free explained _
    exact ⟨grammar, other, built, rebuilt, result, same, succeeded, errors⟩
  · contradiction

end Constructor

end Packrat
