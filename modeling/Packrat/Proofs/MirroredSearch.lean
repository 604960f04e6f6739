import Packrat.Proofs.Mirroring
import Packrat.Proofs.Termination

/-!
# Mirrored grammars are searched alike

The search for left recursion looks at rules as they stand, not at what matching them comes to: it
asks which parts may match nothing and follows those at the front. Where related rules have bodies
of the same form (`Grammar.Tallies`), a rule that is held to match nothing is related only to such
rules (`Grammar.Tallies.isNullable`), and a rule that leads to a definition only to rules that do
(`Grammar.Tallies.transGen_fronts`): a rule that only wraps parts stands at the front where the
first of them does, and is one step more on the way. So one grammar is left recursive just if the
other is (`Grammar.Tallies.leftRecursion?_eq_none_iff`).
-/

namespace Packrat

variable {P : Type}

open Relation (TransGen ReflTransGen)

section Bodies

variable (left right : Grammar P) (related : RuleId → RuleId → Prop)

/-- Two bodies of the same form: mirrored tests, or the tests of related definitions. -/
inductive Body.Mirrors : Body P → Body P → Prop
  /-- Both have tests of their own. -/
  | own {test other : Test P} (tests : Test.Mirrors left right related test other) :
      Mirrors (.own test) (.own other)
  /-- Both share the tests of related definitions. -/
  | shared {definition other : RuleId} (linked : related definition other) :
      Mirrors (.shared definition) (.shared other)

/-- Two grammars with as many definitions whose related rules stand alike, every definition being
related to the one with its number and to nothing else. -/
structure Grammar.Tallies : Prop where
  /-- There are as many definitions. -/
  names : left.names.length = right.names.length
  /-- Definitions with the same number are related. -/
  definition : ∀ {id}, id < left.names.length → related id id
  /-- Definitions are related to nothing else. -/
  itself : ∀ {id other}, related id other →
    id < left.names.length ∨ other < left.names.length → id = other
  /-- Definitions have names. -/
  named : ∀ {id}, id < left.names.length → (left.rule id).name ≠ none
  /-- Related rules resemble each other. -/
  rule : ∀ {id other}, related id other → (left.rule id).Resembles (right.rule other)
  /-- Related rules have bodies of the same form. -/
  body : ∀ {id other}, related id other →
    Body.Mirrors left right related (left.rule id).body (right.rule other).body

end Bodies

variable {left right : Grammar P} {related : RuleId → RuleId → Prop}

/-- Bodies mirror each other whichever comes first. -/
theorem Body.Mirrors.symm {body other : Body P}
    (mirrors : Body.Mirrors left right related body other) :
    Body.Mirrors right left (fun other id => related id other) other body := by
  cases mirrors with
  | own tests => exact .own tests.symm
  | shared linked => exact .shared linked

/-- Grammars tally whichever comes first. -/
theorem Grammar.Tallies.symm (tallies : left.Tallies right related) :
    right.Tallies left fun other id => related id other where
  names := tallies.names.symm
  definition isDefinition := tallies.definition (tallies.names ▸ isDefinition)
  itself linked isDefinition :=
    (tallies.itself linked (tallies.names ▸ isDefinition.symm)).symm
  named isDefinition := by
    have isFormer := tallies.names ▸ isDefinition
    rw [← (tallies.rule (tallies.definition isFormer)).name]
    exact tallies.named isFormer
  rule linked := (tallies.rule linked).symm
  body linked := (tallies.body linked).symm

/-! ## Rules that may match nothing -/

namespace Grammar

variable {grammar : Grammar P}

/-- A rule that the search asks about is nullable to some height that is the same for all rules. -/
theorem nullableTo_of_isNullable {id : RuleId} (nullable : grammar.isNullable id = true) :
    grammar.nullableTo grammar.searchBound id = true :=
  nullableTo_of_nullableWithin nullable

/-- A rule is held to match nothing if it is so by what is held of other rules. -/
theorem IsOrdered.isNullable_of_nullableBy (ordered : grammar.IsOrdered) {id : RuleId}
    (nullable : grammar.nullableBy grammar.isNullable grammar.isNullable id = true) :
    grammar.isNullable id = true := by
  have able : grammar.nullableTo (grammar.searchBound + 1) id = true :=
    nullableBy_mono (fun _ _ => nullableTo_of_isNullable) (fun _ _ => nullableTo_of_isNullable)
      nullable
  exact (ordered.isNullable_iff (lt_size_of_nullableTo able)).mpr ⟨_, able⟩

namespace Wraps

variable {id : RuleId} {parts : List RuleId}

/-- A rule that only wraps parts is held to match nothing if the parts are. -/
theorem isNullable (wraps : grammar.Wraps id parts) (ordered : grammar.IsOrdered)
    (nullable : ∀ part ∈ parts, grammar.isNullable part = true) :
    grammar.isNullable id = true := by
  refine ordered.isNullable_of_nullableBy ?_
  have empty : (grammar.rule id).body.emptyBy grammar.isNullable grammar.isNullable = true := by
    rcases wraps.body with body | ⟨part, rfl, body⟩
    · rw [body]
      exact List.all_eq_true.mpr nullable
    · rw [body]
      exact nullable part (List.mem_singleton.mpr rfl)
  rw [nullableBy, empty, wraps.behaviour, Bool.or_eq_true]
  exact .inr rfl

/-- The parts of a rule that only wraps them are nullable to a height to which the rule is. -/
theorem nullableTo_parts (wraps : grammar.Wraps id parts) {height : Nat}
    (nullable : grammar.nullableTo height id = true) :
    ∀ part ∈ parts, grammar.nullableTo height part = true := by
  have strict : (grammar.rule id).isLenient = false := by
    rw [Occurrence.isLenient, wraps.behaviour, wraps.annotations]
    rfl
  cases height with
  | zero => contradiction
  | succ height =>
    rw [nullableTo, nullableBy, strict, wraps.behaviour] at nullable
    intro part member
    refine nullableTo_mono (Nat.le_succ height) ?_
    rcases wraps.body with body | ⟨only, rfl, body⟩
    · rw [body] at nullable
      exact List.all_eq_true.mp nullable part member
    · rw [body] at nullable
      obtain rfl := List.mem_singleton.mp member
      exact nullable

/-- What stands at the front of a rule that only wraps parts stands at the front of the parts. -/
theorem fronts_iff (wraps : grammar.Wraps id parts) {callee : RuleId} :
    grammar.Fronts id callee ↔ callee ∈ leading grammar.isNullable parts := by
  unfold Fronts
  rcases wraps.body with body | ⟨part, rfl, body⟩
  · rw [body]
    rfl
  · rw [body]
    simp only [front, leading, ite_self]

end Wraps

end Grammar

/-- The parts of a row are held to match nothing if those of the other are nullable to a height, if
related parts are. -/
theorem Row.isNullable (ordered : right.IsOrdered) {height : Nat}
    (each : ∀ {part other}, related part other → left.nullableTo height part = true →
      right.isNullable other = true)
    {parts others : List RuleId} (row : Row left right related parts others)
    (nullable : ∀ part ∈ parts, left.nullableTo height part = true) :
    ∀ other ∈ others, right.isNullable other = true := by
  induction row with
  | nil => exact List.forall_mem_nil _
  | cons linked _ ih =>
    rw [List.forall_mem_cons] at nullable ⊢
    exact ⟨each linked nullable.1, ih nullable.2⟩
  | wrapped wraps _ _ inside rest =>
    rw [List.forall_mem_append] at nullable
    rw [List.forall_mem_cons]
    exact ⟨wraps.isNullable ordered (inside nullable.1), rest nullable.2⟩
  | unwrapped wraps _ _ inside rest =>
    rw [List.forall_mem_cons] at nullable
    rw [List.forall_mem_append]
    exact ⟨inside (wraps.nullableTo_parts nullable.1), rest nullable.2⟩

/-- A member of one of two lists that are related member by member is related to one of the
other. -/
theorem exists_mem_of_forall₂ {alike : RuleId → RuleId → Prop} {parts others : List RuleId}
    (linked : List.Forall₂ alike parts others) {part : RuleId} (member : part ∈ parts) :
    ∃ other ∈ others, alike part other := by
  obtain ⟨index, inside, rfl⟩ := List.mem_iff_getElem.mp member
  have insideOther : index < others.length := linked.length_eq ▸ inside
  exact ⟨others[index], List.getElem_mem insideOther, linked.get inside insideOther⟩

/-- A mirrored test is held to match nothing if the other is by what is nullable to a height, if
related rules are. -/
theorem Test.Mirrors.emptyBy (ordered : right.IsOrdered) {height : Nat}
    (each : ∀ {part other}, related part other → left.nullableTo height part = true →
      right.isNullable other = true)
    {test other : Test P} (mirrors : Test.Mirrors left right related test other)
    (empty : test.emptyBy (left.nullableTo height) (left.nullableTo height) = true) :
    other.emptyBy right.isNullable right.isNullable = true := by
  have single : ∀ {part other}, Row left right related [part] [other] →
      left.nullableTo height part = true → right.isNullable other = true := by
    intro part other row nullable
    refine row.isNullable ordered each ?_ other (List.mem_singleton.mpr rfl)
    rw [List.forall_mem_singleton]
    exact nullable
  cases mirrors with
  | terminal => exact empty
  | procedure => exact empty
  | reference part => exact each part empty
  | inlined part => exact each part empty
  | outlined part => exact each part empty
  | group row => exact single row empty
  | sequence row =>
    exact List.all_eq_true.mpr (row.isNullable ordered each (List.all_eq_true.mp empty))
  | choice rows =>
    obtain ⟨part, member, nullable⟩ := List.any_eq_true.mp empty
    obtain ⟨other, listed, row⟩ := exists_mem_of_forall₂ rows member
    exact List.any_eq_true.mpr ⟨other, listed, single row nullable⟩

/-- A mirrored body is held to match nothing if the other is by what is nullable to a height, if
related rules are. -/
theorem Body.Mirrors.emptyBy (ordered : right.IsOrdered) {height : Nat}
    (each : ∀ {part other}, related part other → left.nullableTo height part = true →
      right.isNullable other = true)
    {body other : Body P} (mirrors : Body.Mirrors left right related body other)
    (empty : body.emptyBy (left.nullableTo height) (left.nullableTo height) = true) :
    other.emptyBy right.isNullable right.isNullable = true := by
  cases mirrors with
  | own tests => exact tests.emptyBy ordered each empty
  | shared linked => exact each linked empty

namespace Grammar.Tallies

/-- A rule that is related to one that is nullable to some height is held to match nothing. -/
theorem isNullable_of_nullableTo (tallies : left.Tallies right related)
    (ordered : right.IsOrdered) {height : Nat} {id other : RuleId} (linked : related id other)
    (nullable : left.nullableTo height id = true) : right.isNullable other = true := by
  induction height generalizing id other with
  | zero => contradiction
  | succ height ih =>
    refine ordered.isNullable_of_nullableBy ?_
    have resembles := tallies.rule linked
    have lenient : (left.rule id).isLenient = (right.rule other).isLenient := by
      rw [Occurrence.isLenient, Occurrence.isLenient, resembles.behaviour, resembles.annotations]
    rw [nullableTo, nullableBy, lenient, resembles.behaviour, Bool.or_eq_true,
      Bool.and_eq_true] at nullable
    rw [nullableBy, Bool.or_eq_true, Bool.and_eq_true]
    exact nullable.imp_right (And.imp_right ((tallies.body linked).emptyBy ordered ih))

/-- The parts of a row are held to match nothing if those of the other are. -/
theorem isNullable_row (tallies : left.Tallies right related) (ordered : right.IsOrdered)
    {parts others : List RuleId} (row : Row left right related parts others)
    (nullable : ∀ part ∈ parts, left.isNullable part = true) :
    ∀ other ∈ others, right.isNullable other = true :=
  row.isNullable ordered (tallies.isNullable_of_nullableTo ordered)
    fun part member => nullableTo_of_isNullable (nullable part member)

end Grammar.Tallies

/-! ## Ways through the front -/

/-- The front of parts one after the other is that of the first ones, and that of the others if the
first ones may match nothing. -/
theorem Grammar.mem_leading_append {nullable : RuleId → Bool} {parts later : List RuleId}
    {id : RuleId} :
    id ∈ leading nullable (parts ++ later) ↔ id ∈ leading nullable parts ∨
      (∀ part ∈ parts, nullable part = true) ∧ id ∈ leading nullable later := by
  induction parts with
  | nil => simp [leading]
  | cons part rest ih =>
    rw [List.cons_append, leading, leading, List.mem_cons, List.mem_cons, List.forall_mem_cons]
    cases nullable part with
    | true =>
      simp only [↓reduceIte, ih, true_and]
      exact or_assoc.symm
    | false => simp

/-- Where something at the front of some parts is a rule or leads to it in some steps, something at
the front of the others does so. -/
def LeadsAlike (left right : Grammar P) (start : RuleId) (distance : Nat)
    (parts others : List RuleId) : Prop :=
  ∀ callee ∈ Grammar.leading left.isNullable parts,
    callee = start ∨ left.LeadsTo start distance callee →
      ∃ other ∈ Grammar.leading right.isNullable others, ReflTransGen right.Fronts other start

namespace Grammar.Tallies

variable {start : RuleId} {distance : Nat} {parts others : List RuleId}

/-- Rows one after the other lead alike if they do one by one. -/
theorem leadsAlike_append (tallies : left.Tallies right related) (ordered : right.IsOrdered)
    {later laterOthers : List RuleId} (row : Row left right related parts others)
    (first : LeadsAlike left right start distance parts others)
    (rest : LeadsAlike left right start distance later laterOthers) :
    LeadsAlike left right start distance (parts ++ later) (others ++ laterOthers) := by
  intro callee member leads
  rcases mem_leading_append.mp member with member | ⟨nullable, member⟩
  · obtain ⟨other, found, way⟩ := first callee member leads
    exact ⟨other, mem_leading_append.mpr (.inl found), way⟩
  · obtain ⟨other, found, way⟩ := rest callee member leads
    have passed := tallies.isNullable_row ordered row nullable
    exact ⟨other, mem_leading_append.mpr (.inr ⟨passed, found⟩), way⟩

/-- Rows lead alike to a definition if related parts do. -/
theorem leadsAlike_row (tallies : left.Tallies right related) (ordered : right.IsOrdered)
    (isDefinition : start < left.names.length)
    (each : ∀ {part other}, related part other → part = start ∨ left.LeadsTo start distance part →
      ReflTransGen right.Fronts other start)
    (row : Row left right related parts others) :
    LeadsAlike left right start distance parts others := by
  induction row with
  | nil => exact fun callee member => by contradiction
  | @cons part other later laterOthers linked _ ih =>
    refine tallies.leadsAlike_append ordered (.single linked) ?_ ih
    intro callee member leads
    obtain rfl := List.mem_singleton.mp (mem_of_mem_leading member)
    exact ⟨other, List.mem_cons_self, each linked leads⟩
  | @wrapped wrapper parts others later laterOthers wraps inside _ ihInside ih =>
    refine tallies.leadsAlike_append ordered (.wrap wraps inside) ?_ ih
    intro callee member leads
    obtain ⟨other, found, way⟩ := ihInside callee member leads
    exact ⟨wrapper, List.mem_cons_self, .head (wraps.fronts_iff.mpr found) way⟩
  | @unwrapped wrapper parts others later laterOthers wraps inside _ ihInside ih =>
    refine tallies.leadsAlike_append ordered (.unwrap wraps inside) ?_ ih
    intro callee member leads
    obtain rfl := List.mem_singleton.mp (mem_of_mem_leading member)
    rcases leads with rfl | leads
    · exact absurd wraps.name (tallies.named isDefinition)
    cases distance with
    | zero => exact leads.elim
    | succ distance =>
      obtain ⟨next, fronts, reached⟩ := leads
      exact ihInside next (wraps.fronts_iff.mp fronts)
        (reached.imp_right (LeadsTo.mono (Nat.le_succ distance)))

/-- Something at the front of a mirrored test leads to a definition if something at the front of the
other does, if related rules do. -/
theorem exists_front (tallies : left.Tallies right related) (ordered : right.IsOrdered)
    (isDefinition : start < left.names.length)
    (each : ∀ {part other}, related part other → part = start ∨ left.LeadsTo start distance part →
      ReflTransGen right.Fronts other start)
    {test other : Test P} (mirrors : Test.Mirrors left right related test other) {callee : RuleId}
    (member : callee ∈ left.front test)
    (leads : callee = start ∨ left.LeadsTo start distance callee) :
    ∃ next ∈ right.front other, ReflTransGen right.Fronts next start := by
  have single : ∀ {part other}, Row left right related [part] [other] →
      part = start ∨ left.LeadsTo start distance part →
        ReflTransGen right.Fronts other start := by
    intro part other row leads
    obtain ⟨next, found, way⟩ := tallies.leadsAlike_row ordered isDefinition each row part
      List.mem_cons_self leads
    obtain rfl := List.mem_singleton.mp (mem_of_mem_leading found)
    exact way
  have follow : ∀ {target other}, related target other → callee ∈ [target] →
      ∃ next ∈ [other], ReflTransGen right.Fronts next start := by
    intro target other linked member
    obtain rfl := List.mem_singleton.mp member
    exact ⟨other, List.mem_singleton.mpr rfl, each linked leads⟩
  cases mirrors with
  | terminal => contradiction
  | procedure => contradiction
  | reference part => exact follow part member
  | inlined part => exact follow part member
  | outlined part => exact follow part member
  | @group part other row =>
    obtain rfl := List.mem_singleton.mp member
    exact ⟨other, List.mem_singleton.mpr rfl, single row leads⟩
  | sequence row => exact tallies.leadsAlike_row ordered isDefinition each row callee member leads
  | choice rows =>
    obtain ⟨other, listed, row⟩ := exists_mem_of_forall₂ rows member
    exact ⟨other, listed, single row leads⟩

/-- A rule that is related to one that leads to a definition leads to it. -/
theorem transGen_fronts (tallies : left.Tallies right related) (ordered : right.IsOrdered)
    (isDefinition : start < left.names.length) {id other : RuleId} (linked : related id other)
    (leads : left.LeadsTo start distance id) : TransGen right.Fronts other start := by
  induction distance generalizing id other with
  | zero => exact leads.elim
  | succ distance ih =>
    obtain ⟨callee, fronts, reached⟩ := leads
    have each : ∀ {part other}, related part other →
        part = start ∨ left.LeadsTo start distance part →
          ReflTransGen right.Fronts other start := by
      rintro part other linked (rfl | leads)
      · rw [tallies.itself linked (.inl isDefinition)]
      · exact (ih linked leads).to_reflTransGen
    obtain ⟨next, front, way⟩ : ∃ next, right.Fronts other next ∧
        ReflTransGen right.Fronts next start := by
      have bodies := tallies.body linked
      unfold Fronts at fronts ⊢
      generalize (left.rule id).body = body at bodies fronts
      generalize (right.rule other).body = otherBody at bodies
      cases bodies with
      | own tests => exact tallies.exists_front ordered isDefinition each tests fronts reached
      | @shared definition otherDefinition linked =>
        have same : callee = definition := fronts
        exact ⟨otherDefinition, rfl, each linked (same ▸ reached)⟩
    exact .head' front way

/-- A grammar that tallies with one without left recursion has none. -/
theorem leftRecursion?_eq_none (tallies : left.Tallies right related) (ordered : left.IsOrdered)
    (otherOrdered : right.IsOrdered) (accepted : right.leftRecursion? = none) :
    left.leftRecursion? = none := by
  rw [ordered.leftRecursion?_eq_none_iff]
  intro definition isDefinition distance leads
  have circle := tallies.transGen_fronts otherOrdered isDefinition
    (tallies.definition isDefinition) leads
  exact otherOrdered.not_transGen_self accepted definition circle

/-- Of two grammars that tally, one has left recursion just if the other has. -/
theorem leftRecursion?_eq_none_iff (tallies : left.Tallies right related)
    (ordered : left.IsOrdered) (otherOrdered : right.IsOrdered) :
    left.leftRecursion? = none ↔ right.leftRecursion? = none :=
  ⟨tallies.symm.leftRecursion?_eq_none otherOrdered ordered,
    tallies.leftRecursion?_eq_none ordered otherOrdered⟩

end Grammar.Tallies

end Packrat
