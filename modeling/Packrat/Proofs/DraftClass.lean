import Packrat.Proofs.GrammarClass
import Packrat.Proofs.Rendering

/-!
# Drafts without procedures

A draft is procedure-free if no rule in it runs a procedure, at whatever depth. Numbering puts
nothing into the table that is not in the draft, and what is in the draft stands in the table, so a
grammar that was built is procedure-free just if its draft is (`isProcedureFree_of_build`).
-/

namespace Packrat

variable {P : Type}

mutual
/-- Whether no part of a rule runs a procedure. -/
def Rule.isProcedureFree : Rule P → Bool
  | .mk _ _ expression => expression.isProcedureFree

/-- Whether no part of an expression runs a procedure. -/
def Expression.isProcedureFree : Expression P → Bool
  | .terminal _ => true
  | .reference _ _ _ => true
  | .procedure _ => false
  | .sequence rules => Rule.areProcedureFree rules
  | .choice rules => Rule.areProcedureFree rules
  | .group rule => rule.isProcedureFree

/-- Whether no part of several rules runs a procedure. -/
def Rule.areProcedureFree : List (Rule P) → Bool
  | [] => true
  | rule :: later => rule.isProcedureFree && Rule.areProcedureFree later
end

namespace Draft

/-- Whether no rule of a draft runs a procedure. -/
def isProcedureFree (draft : Draft P) : Bool :=
  (draft.definitions.all fun entry => entry.2.isProcedureFree) &&
    draft.root.all Rule.isProcedureFree

/-- No rule of a table runs a procedure. -/
def RunsNothing (table : Table P) : Prop :=
  ∀ rule ∈ table.toList, ∀ test, rule.body = .own test → test.isNoProcedure = true

section Lowering

variable {given : List (String × Rule P)}

/-- A table stays without procedures if a rule is added that runs none. -/
theorem RunsNothing.push {table : Table P} {occurrence : Occurrence P} (nothing : RunsNothing table)
    (own : ∀ test, occurrence.body = .own test → test.isNoProcedure = true) :
    RunsNothing (table.push occurrence) := by
  intro rule member test body
  rw [Array.toList_push, List.mem_append, List.mem_singleton] at member
  rcases member with earlier | rfl
  · exact nothing rule earlier test body
  · exact own test body

/-- A table stays without procedures if the place of a definition is filled with a rule that runs
none. -/
theorem RunsNothing.place {table : Table P} (nothing : RunsNothing table)
    (occurrence : Occurrence P)
    (own : ∀ test, occurrence.body = .own test → test.isNoProcedure = true) (id : RuleId) :
    RunsNothing (table.setIfInBounds id occurrence) := by
  intro rule member test body
  rw [Array.toList_setIfInBounds] at member
  rcases List.mem_or_eq_of_mem_set member with earlier | rfl
  · exact nothing rule earlier test body
  · exact own test body

mutual
/-- Numbering a rule that runs no procedure brings none into the table. -/
theorem lower_runsNothing {rule : Rule P} {occurrence : Occurrence P} {before after : Table P}
    (nothing : RunsNothing before) (free : rule.isProcedureFree = true)
    (done : lower given rule before = .ok (occurrence, after)) :
    RunsNothing after ∧ ∀ test, occurrence.body = .own test → test.isNoProcedure = true := by
  cases rule with
  | mk behaviour annotations expression =>
    unfold lower at done
    obtain ⟨_, _, numbering⟩ := exists_of_bind_eq_ok done
    obtain ⟨⟨test, table⟩, lowered, same⟩ := exists_of_bind_eq_ok numbering
    obtain ⟨rfl, rfl⟩ := Prod.mk.inj (Except.ok.inj same)
    rw [Rule.isProcedureFree] at free
    obtain ⟨kept, own⟩ := lowerExpression_runsNothing nothing free lowered
    exact ⟨kept, fun other body => Body.own.inj body ▸ own⟩

/-- Numbering an expression that runs no procedure brings none into the table. -/
theorem lowerExpression_runsNothing {expression : Expression P} {test : Test P}
    {before after : Table P}
    (nothing : RunsNothing before) (free : expression.isProcedureFree = true)
    (done : lowerExpression given expression before = .ok (test, after)) :
    RunsNothing after ∧ test.isNoProcedure = true := by
  unfold lowerExpression at done
  cases expression with
  | terminal terminal =>
    obtain ⟨rfl, rfl⟩ := Prod.mk.inj (Except.ok.inj done)
    exact ⟨nothing, rfl⟩
  | reference name behaviour annotations =>
    simp only [lowerReference] at done
    split at done
    · split at done
      · obtain ⟨rfl, rfl⟩ := Prod.mk.inj (Except.ok.inj done)
        exact ⟨nothing, rfl⟩
      · split at done
        · contradiction
        · obtain ⟨rfl, rfl⟩ := Prod.mk.inj (Except.ok.inj done)
          exact ⟨nothing.push nofun, rfl⟩
    · contradiction
  | procedure steps => simp [Expression.isProcedureFree] at free
  | sequence rules =>
    obtain ⟨⟨parts, table⟩, lowered, same⟩ := exists_of_bind_eq_ok done
    obtain ⟨rfl, rfl⟩ := Prod.mk.inj (Except.ok.inj same)
    rw [Expression.isProcedureFree] at free
    exact ⟨lowerAll_runsNothing nothing free lowered, rfl⟩
  | choice rules =>
    obtain ⟨⟨parts, table⟩, lowered, same⟩ := exists_of_bind_eq_ok done
    obtain ⟨rfl, rfl⟩ := Prod.mk.inj (Except.ok.inj same)
    rw [Expression.isProcedureFree] at free
    exact ⟨lowerAll_runsNothing nothing free lowered, rfl⟩
  | group rule =>
    obtain ⟨⟨occurrence, table⟩, lowered, same⟩ := exists_of_bind_eq_ok done
    obtain ⟨rfl, rfl⟩ := Prod.mk.inj (Except.ok.inj same)
    rw [Expression.isProcedureFree] at free
    obtain ⟨kept, own⟩ := lower_runsNothing nothing free lowered
    exact ⟨kept.push own, rfl⟩

/-- Numbering rules that run no procedure brings none into the table. -/
theorem lowerAll_runsNothing {rules : List (Rule P)} {parts : List RuleId} {before after : Table P}
    (nothing : RunsNothing before) (free : Rule.areProcedureFree rules = true)
    (done : lowerAll given rules before = .ok (parts, after)) : RunsNothing after := by
  unfold lowerAll at done
  cases rules with
  | nil =>
    obtain ⟨rfl, rfl⟩ := Prod.mk.inj (Except.ok.inj done)
    exact nothing
  | cons rule rules =>
    obtain ⟨⟨occurrence, table⟩, lowered, rest⟩ := exists_of_bind_eq_ok done
    obtain ⟨⟨later, last⟩, loweredLater, same⟩ := exists_of_bind_eq_ok rest
    obtain ⟨rfl, rfl⟩ := Prod.mk.inj (Except.ok.inj same)
    rw [Rule.areProcedureFree, Bool.and_eq_true] at free
    obtain ⟨kept, own⟩ := lower_runsNothing nothing free.1 lowered
    exact lowerAll_runsNothing (kept.push own) free.2 loweredLater
end

/-- Numbering definitions that run no procedure brings none into the table. -/
theorem lowerDefinitions_runsNothing {later : List (String × Rule P)} {id : Nat}
    {before after : Table P} (nothing : RunsNothing before)
    (free : later.all (fun entry => entry.2.isProcedureFree) = true)
    (done : lowerDefinitions given id later before = .ok after) : RunsNothing after := by
  induction later generalizing id before with
  | nil =>
    obtain rfl := Except.ok.inj done
    exact nothing
  | cons entry later ih =>
    obtain ⟨name, rule⟩ := entry
    unfold lowerDefinitions at done
    obtain ⟨⟨occurrence, table⟩, lowered, rest⟩ := exists_of_bind_eq_ok done
    rw [List.all_cons, Bool.and_eq_true] at free
    obtain ⟨kept, own⟩ := lower_runsNothing nothing free.1 lowered
    exact ih (kept.place { occurrence with name := some name } own id) free.2 rest

mutual
/-- An expression that comes to a test of a grammar without procedures runs none. -/
theorem RendersTest.isProcedureFree {grammar : Grammar P} (free : grammar.isProcedureFree = true)
    {expression : Expression P} {test : Test P} (own : test.isNoProcedure = true) :
    RendersTest given grammar.rules expression test → expression.isProcedureFree = true
  | .terminal => by rw [Expression.isProcedureFree]
  | .reference _ => by rw [Expression.isProcedureFree]
  | .substitute _ _ _ _ _ => by rw [Expression.isProcedureFree]
  | .procedure => by contradiction
  | .sequence all => by rw [Expression.isProcedureFree, all.areProcedureFree free]
  | .choice all => by rw [Expression.isProcedureFree, all.areProcedureFree free]
  | .group part => by rw [Expression.isProcedureFree, part.isProcedureFree free]

/-- A rule that stands in a grammar without procedures runs none. -/
theorem RendersPart.isProcedureFree {grammar : Grammar P} (free : grammar.isProcedureFree = true)
    {rule : Rule P} {id : RuleId} :
    RendersPart given grammar.rules rule id → rule.isProcedureFree = true
  | .mk _ stands renders => by
    have member := (Array.mem_of_getElem? stands).val
    rw [Rule.isProcedureFree, renders.isProcedureFree free (List.all_eq_true.mp free _ member)]

/-- Rules that stand in a grammar without procedures run none. -/
theorem RendersAll.areProcedureFree {grammar : Grammar P} (free : grammar.isProcedureFree = true)
    {rules : List (Rule P)} {parts : List RuleId} :
    RendersAll given grammar.rules rules parts → Rule.areProcedureFree rules = true
  | .nil => by rw [Rule.areProcedureFree]
  | .cons part later => by
    rw [Rule.areProcedureFree, part.isProcedureFree free, later.areProcedureFree free,
      Bool.and_self]
end

end Lowering

/-- A grammar that was built from a draft without procedures has none. -/
theorem isProcedureFree_grammar {draft : Draft P} {grammar : Grammar P}
    (built : draft.build = .ok grammar) (free : draft.isProcedureFree = true) :
    grammar.isProcedureFree = true := by
  rw [isProcedureFree, Bool.and_eq_true] at free
  unfold build at built
  split at built
  · contradiction
  · contradiction
  · rename_i root rooted _
    obtain ⟨result, numbering, accepted⟩ := exists_of_bind_eq_ok built
    split at accepted
    · contradiction
    · obtain rfl := Except.ok.inj accepted
      unfold number at numbering
      obtain ⟨table, filled, rest⟩ := exists_of_bind_eq_ok numbering
      obtain ⟨⟨occurrence, last⟩, lowered, same⟩ := exists_of_bind_eq_ok rest
      obtain rfl := Except.ok.inj same
      have places : RunsNothing
          (Array.replicate draft.definitions.length (Occurrence.never : Occurrence P)) := by
        intro rule member test body
        obtain rfl := List.eq_of_mem_replicate (Array.toList_replicate ▸ member)
        obtain rfl := Body.own.inj body
        rfl
      have defined := lowerDefinitions_runsNothing places free.1 filled
      rw [rooted, Option.all_some] at free
      obtain ⟨kept, own⟩ := lower_runsNothing defined free.2 lowered
      refine List.all_eq_true.mpr fun rule member => ?_
      split
      · rename_i test body
        exact kept.push own rule member test body
      · rfl

/-- A grammar that was built is procedure-free just if its draft is. -/
theorem isProcedureFree_of_build {draft : Draft P} {grammar : Grammar P}
    (built : draft.build = .ok grammar) :
    grammar.isProcedureFree = true ↔ draft.isProcedureFree = true := by
  refine ⟨fun free => ?_, isProcedureFree_grammar built⟩
  have rendered := isRendered_of_build built
  rw [isProcedureFree, Bool.and_eq_true, List.all_eq_true]
  refine ⟨fun entry member => ?_, ?_⟩
  · obtain ⟨index, listed⟩ := List.getElem?_of_mem member
    obtain ⟨test, stands, renders⟩ := rendered.definition listed
    have held := List.all_eq_true.mp free _ (Array.mem_of_getElem? stands).val
    obtain ⟨name, behaviour, annotations, expression⟩ := entry
    rw [Rule.isProcedureFree]
    exact renders.isProcedureFree free held
  · cases rooted : draft.root with
    | none => rfl
    | some root => exact (rendered.root rooted).isProcedureFree free

end Draft

end Packrat
