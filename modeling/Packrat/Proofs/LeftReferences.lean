import Mathlib.Data.List.Chain
import Mathlib.Order.Bounds.Defs
import Packrat.Proofs.Rendering
import Packrat.Proofs.Termination

/-!
# Left references

What rules are held to match nothing is the least solution of a system of equations, one for every
rule (`IsOrdered.isLeast_isNullable`). On top of it a rule refers on its left to what it stands for
itself, and to what is referred to by the part of a group, by any part of a choice, and by the parts
of a sequence up to the first that has to take a character (`LeftRefers`).

The search for left recursion refuses a grammar exactly if some definition comes back to itself by
left references, and the chain in its fault follows them from the first such definition to itself
(`Draft.leftRecursion?_exact`).
-/

namespace Packrat

variable {P : Type}

open Relation (TransGen)

namespace Grammar

variable {grammar : Grammar P}

/-! ## Nullability as a least solution -/

/-- The solutions of the equations that say of every rule when it is held to match nothing. -/
def nullabilities (grammar : Grammar P) : Set (RuleId → Bool) :=
  {held | ∀ id, held id = grammar.nullableBy held held id}

/-- What the search holds to match nothing solves the equations. -/
theorem IsOrdered.isNullable_mem (ordered : grammar.IsOrdered) :
    grammar.isNullable ∈ grammar.nullabilities := by
  intro id
  refine Bool.eq_iff_iff.mpr ⟨fun held => ?_, fun held => ?_⟩
  · have nullable : grammar.nullableTo grammar.searchBound id = true :=
      nullableTo_of_nullableWithin held
    generalize grammar.searchBound = height at nullable
    cases height with
    | zero => contradiction
    | succ height =>
      refine nullableBy_mono (fun target stands below => ?_) (fun part member below => ?_) nullable
      · exact (ordered.isNullable_iff (ordered.target_lt stands)).mpr ⟨height, below⟩
      · exact (ordered.isNullable_iff (ordered.contains member).2.1).mpr ⟨height, below⟩
  · have nullable : grammar.nullableTo (grammar.searchBound + 1) id = true :=
      nullableBy_mono (fun _ _ => nullableTo_of_nullableWithin)
        (fun _ _ => nullableTo_of_nullableWithin) held
    exact (ordered.isNullable_iff (lt_size_of_nullableTo nullable)).mpr ⟨_, nullable⟩

/-- What is nullable to a height is held to match nothing by every solution. -/
theorem held_of_nullableTo {held : RuleId → Bool} (solves : held ∈ grammar.nullabilities)
    {height : Nat} {id : RuleId} (nullable : grammar.nullableTo height id = true) :
    held id = true := by
  induction height generalizing id with
  | zero => contradiction
  | succ height ih =>
    rw [solves id]
    exact nullableBy_mono (fun _ _ => ih) (fun _ _ => ih) nullable

/-- What the search holds to match nothing is the least solution of the equations. -/
theorem IsOrdered.isLeast_isNullable (ordered : grammar.IsOrdered) :
    IsLeast grammar.nullabilities grammar.isNullable := by
  refine ⟨ordered.isNullable_mem, fun held solves id => ?_⟩
  exact Bool.le_iff_imp.mpr fun nullable =>
    held_of_nullableTo solves (nullableTo_of_nullableWithin nullable)

/-! ## Left references -/

/-- One rule refers to another on its left: before it has taken a character, the way down into its
parts may come to a rule that stands for the other. -/
inductive LeftRefers (grammar : Grammar P) : RuleId → RuleId → Prop
  /-- A rule refers to what it stands for, by a reference or by sharing its test. -/
  | stands {id target : RuleId} (stands : (grammar.rule id).target? = some target) :
      LeftRefers grammar id target
  /-- A group refers to what its part refers to. -/
  | group {id inner target : RuleId} (body : (grammar.rule id).body = .own (.group inner))
      (inside : LeftRefers grammar inner target) : LeftRefers grammar id target
  /-- A choice refers to what any of its parts refers to. -/
  | choice {id part target : RuleId} {parts : List RuleId}
      (body : (grammar.rule id).body = .own (.choice parts)) (member : part ∈ parts)
      (inside : LeftRefers grammar part target) : LeftRefers grammar id target
  /-- A sequence refers to what a part refers to if all parts before it are nullable. -/
  | sequence {id part target : RuleId} {earlier later : List RuleId}
      (body : (grammar.rule id).body = .own (.sequence (earlier ++ part :: later)))
      (skipped : ∀ other ∈ earlier, grammar.isNullable other = true)
      (inside : LeftRefers grammar part target) : LeftRefers grammar id target

/-- The parts up to the first that has to take a character are those behind nullable parts only. -/
theorem mem_leading_iff {nullable : RuleId → Bool} {parts : List RuleId} {part : RuleId} :
    part ∈ leading nullable parts ↔ ∃ earlier later, parts = earlier ++ part :: later ∧
      ∀ other ∈ earlier, nullable other = true := by
  induction parts with
  | nil => simp [leading]
  | cons first rest ih =>
    rw [leading, List.mem_cons]
    constructor
    · rintro (rfl | member)
      · exact ⟨[], rest, rfl, List.forall_mem_nil _⟩
      · split at member
        · rename_i able
          obtain ⟨earlier, later, rfl, skipped⟩ := ih.mp member
          exact ⟨first :: earlier, later, rfl, List.forall_mem_cons.mpr ⟨able, skipped⟩⟩
        · contradiction
    · rintro ⟨earlier, later, same, skipped⟩
      cases earlier with
      | nil => exact .inl (List.cons.inj same).1.symm
      | cons head earlier =>
        obtain ⟨rfl, rest⟩ := List.cons.inj same
        obtain ⟨able, skipped⟩ := List.forall_mem_cons.mp skipped
        rw [if_pos able]
        exact .inr (ih.mpr ⟨earlier, later, rest, skipped⟩)

/-- What a rule stands for is at its front. -/
theorem fronts_of_target? {id target : RuleId} (stands : (grammar.rule id).target? = some target) :
    grammar.Fronts id target := by
  unfold Occurrence.target? at stands
  unfold Fronts
  split at stands
  · rename_i other body
    rw [body, Option.some.inj stands]
    exact List.mem_singleton.mpr rfl
  · rename_i definition body
    rw [body, Option.some.inj stands]
  · contradiction

/-- A left reference is a way through the front. -/
theorem LeftRefers.transGen {id target : RuleId} (refers : grammar.LeftRefers id target) :
    TransGen grammar.Fronts id target := by
  induction refers with
  | stands stands => exact .single (fronts_of_target? stands)
  | group body _ ih =>
    refine .head ?_ ih
    rw [Fronts, body]
    exact List.mem_singleton.mpr rfl
  | choice body member _ ih =>
    refine .head ?_ ih
    rwa [Fronts, body]
  | sequence body skipped _ ih =>
    refine .head ?_ ih
    rw [Fronts, body]
    exact mem_leading_iff.mpr ⟨_, _, rfl, skipped⟩

/-! ## The chain that is found -/

/-- A chain that the search finds goes on from the rule that was followed last to the start, by left
references, if that rule refers to all that the rule under search refers to. -/
theorem exists_path_of_chainWithin {start here id : RuleId} {steps : Nat}
    {earlier chain : List RuleId}
    (found : grammar.chainWithin start steps (earlier ++ [here]) id = some chain)
    (passes : ∀ target, grammar.LeftRefers id target → grammar.LeftRefers here target) :
    ∃ path, chain = earlier ++ (here :: path ++ [start]) ∧
      (here :: path ++ [start]).IsChain grammar.LeftRefers := by
  induction steps generalizing id here earlier with
  | zero => contradiction
  | succ steps ih =>
    unfold chainWithin at found
    have follow : ∀ {target : RuleId}, (grammar.rule id).target? = some target →
        (if target = start then some (earlier ++ [here] ++ [target])
          else if (earlier ++ [here]).contains target then none
          else grammar.chainWithin start steps (earlier ++ [here] ++ [target]) target) =
          some chain →
        ∃ path, chain = earlier ++ (here :: path ++ [start]) ∧
          (here :: path ++ [start]).IsChain grammar.LeftRefers := by
      intro target stands followed
      have refers := passes target (.stands stands)
      split at followed
      · rename_i same
        obtain rfl := Option.some.inj followed
        exact ⟨[], same ▸ List.append_assoc _ _ _, List.isChain_pair.mpr (same ▸ refers)⟩
      · split at followed
        · contradiction
        · obtain ⟨path, rfl, chained⟩ := ih followed fun _ onward => onward
          refine ⟨target :: path, ?_, List.isChain_cons_cons.mpr ⟨refers, chained⟩⟩
          simp only [List.append_assoc, List.cons_append, List.nil_append]
    cases body : (grammar.rule id).body with
    | shared definition =>
      rw [body] at found
      exact follow (by rw [Occurrence.target?, body]) found
    | own test =>
      rw [body] at found
      cases test with
      | reference target => exact follow (by rw [Occurrence.target?, body]) found
      | group inner => exact ih found fun target inside => passes target (.group body inside)
      | sequence parts =>
        obtain ⟨part, member, searched⟩ := List.exists_of_findSome?_eq_some found
        obtain ⟨before, after, rfl, skipped⟩ := mem_leading_iff.mp member
        exact ih searched fun target inside => passes target (.sequence body skipped inside)
      | choice parts =>
        obtain ⟨part, member, searched⟩ := List.exists_of_findSome?_eq_some found
        exact ih searched fun target inside => passes target (.choice body member inside)
      | terminal terminal => contradiction
      | procedure steps => contradiction

/-- A chain that the search finds for a definition follows left references from it to itself. -/
theorem exists_path_of_leftChain? {definition : RuleId} {chain : List RuleId}
    (found : grammar.leftChain? definition = some chain) :
    ∃ path, chain = definition :: path ++ [definition] ∧
      (definition :: path ++ [definition]).IsChain grammar.LeftRefers := by
  have searched : grammar.chainWithin definition grammar.searchBound ([] ++ [definition])
      definition = some chain := found
  exact exists_path_of_chainWithin searched fun _ refers => refers

/-- A chain leads from its first rule to its last. -/
theorem transGen_of_isChain {relation : RuleId → RuleId → Prop} {first last : RuleId}
    {path : List RuleId} (chained : (first :: path ++ [last]).IsChain relation) :
    TransGen relation first last := by
  induction path generalizing first with
  | nil => exact .single (List.isChain_pair.mp chained)
  | cons next path ih =>
    obtain ⟨related, rest⟩ := List.isChain_cons_cons.mp chained
    exact .head related (ih rest)

/-- The search finds a chain for a definition just if the definition comes back to itself by left
references. -/
theorem IsOrdered.leftChain?_ne_none_iff (ordered : grammar.IsOrdered) {definition : RuleId}
    (isDefinition : definition < grammar.names.length) :
    grammar.leftChain? definition ≠ none ↔ TransGen grammar.LeftRefers definition definition := by
  constructor
  · intro found
    obtain ⟨chain, found⟩ := Option.ne_none_iff_exists'.mp found
    obtain ⟨path, _, chained⟩ := exists_path_of_leftChain? found
    exact transGen_of_isChain chained
  · intro circle nothing
    obtain ⟨distance, leads⟩ := exists_leadsTo (TransGen.closed (fun _ _ => LeftRefers.transGen)
      _ _ circle)
    exact (ordered.leftChain?_eq_none_iff isDefinition).mp nothing distance leads

end Grammar

/-! ## The fault that is reported -/

namespace Draft

/-- A definition has its own name in the grammar that a draft is numbered to. -/
theorem name_of_number {draft : Draft P} {root : Rule P} {grammar : Grammar P}
    (numbering : draft.number root = .ok grammar) {definition : RuleId} {name : String}
    (listed : draft.names[definition]? = some name) :
    (grammar.rule definition).name = some name := by
  have rendered : Draft.IsRendered { draft with root := some root } grammar :=
    isRendered_of_number rfl numbering
  rw [names, List.getElem?_map] at listed
  obtain ⟨⟨_, rule⟩, defined, rfl⟩ := Option.map_eq_some_iff.mp listed
  obtain ⟨test, stands, _⟩ := rendered.definition defined
  rw [Grammar.rule, stands, Option.getD_some]

/-- What is found among the numbers below a bound is found at the first of them at which there is
anything. -/
theorem exists_first_of_findSome? {α : Type} {find : Nat → Option α} {bound : Nat} {result : α}
    (found : (List.range bound).findSome? find = some result) :
    ∃ first < bound, find first = some result ∧ ∀ earlier < first, find earlier = none := by
  induction bound with
  | zero => contradiction
  | succ bound ih =>
    rw [List.range_succ, List.findSome?_append] at found
    cases before : (List.range bound).findSome? find with
    | some other =>
      rw [before] at found
      obtain rfl := Option.some.inj found
      obtain ⟨first, inside, here, nothing⟩ := ih before
      exact ⟨first, Nat.lt_succ_of_lt inside, here, nothing⟩
    | none =>
      rw [before, Option.none_or, List.findSome?_singleton] at found
      refine ⟨bound, Nat.lt_succ_self bound, found, fun earlier below => ?_⟩
      exact List.findSome?_eq_none_iff.mp before earlier (List.mem_range.mpr below)

/-- In the table that a draft is numbered to, what is held to match nothing is the least solution of
the equations for it, left recursion is found exactly if some definition comes back to itself by
left references, and the fault names the first such definition, with a chain that leads from it to
itself by left references. Rules without a name are left out of the chain. -/
theorem leftRecursion?_exact {draft : Draft P} {root : Rule P} {grammar : Grammar P}
    (numbering : draft.number root = .ok grammar) :
    IsLeast grammar.nullabilities grammar.isNullable ∧
    (grammar.leftRecursion? ≠ none ↔
      ∃ definition < grammar.names.length, TransGen grammar.LeftRefers definition definition) ∧
    ∀ fault, grammar.leftRecursion? = some fault → ∃ definition name path,
      draft.names[definition]? = some name ∧
      (∀ earlier < definition, ¬ TransGen grammar.LeftRefers earlier earlier) ∧
      (definition :: path ++ [definition]).IsChain grammar.LeftRefers ∧
      fault = .leftRecursion name
        (name :: path.filterMap (fun id => (grammar.rule id).name) ++ [name]) := by
  have ordered : grammar.IsOrdered := (isNumbered_rules_of_number numbering).isOrdered
  refine ⟨ordered.isLeast_isNullable, ?_, fun fault found => ?_⟩
  · constructor
    · intro found
      by_contra acyclic
      refine found (grammar.leftRecursion?_eq_none_iff.mpr fun definition isDefinition => ?_)
      by_contra chained
      exact acyclic ⟨definition, isDefinition,
        (ordered.leftChain?_ne_none_iff isDefinition).mp chained⟩
    · rintro ⟨definition, isDefinition, circle⟩ nothing
      exact (ordered.leftChain?_ne_none_iff isDefinition).mpr circle
        (grammar.leftRecursion?_eq_none_iff.mp nothing definition isDefinition)
  · obtain ⟨definition, isDefinition, here, nothing⟩ := exists_first_of_findSome? found
    obtain ⟨chain, searched, rfl⟩ := Option.map_eq_some_iff.mp here
    obtain ⟨path, rfl, chained⟩ := Grammar.exists_path_of_leftChain? searched
    have listed : draft.names[definition]? = some (grammar.names[definition]) := by
      rw [← names_of_number numbering]
      exact List.getElem?_eq_getElem isDefinition
    have named := name_of_number numbering listed
    refine ⟨definition, _, path, listed, fun earlier before circle => ?_, chained, ?_⟩
    · have unfound := Option.map_eq_none_iff.mp (nothing earlier before)
      exact (ordered.leftChain?_ne_none_iff (Nat.lt_trans before isDefinition)).mpr circle unfound
    · simp only [named, Option.getD_some, List.filterMap_append, List.filterMap_cons,
        List.filterMap_nil]

/-- Two definitions that refer to each other on their left: one behind a letter that may be missing,
the other under a behaviour of its own, in a rule without a name. -/
def tangled : Draft where
  definitions :=
    [("first", .sequence [(Rule.literal "x").optional, .reference "second"]),
      ("second", .choice
        [.literal "y", .ofExpression (.reference "first" (some .scanning) none)])]
  root := some (.reference "first")

/-- The tangled definitions are refused with the chain from the first to the second and back, and
some definition does come back to itself by left references. -/
theorem leftRecursion?_exact_tangled :
    ∃ grammar, tangled.number (.reference "first") = .ok grammar ∧
      grammar.leftRecursion? = some (.leftRecursion "first" ["first", "second", "first"]) ∧
      IsLeast grammar.nullabilities grammar.isNullable ∧
      ∃ definition < grammar.names.length, TransGen grammar.LeftRefers definition definition := by
  have checked : (match tangled.number (.reference "first") with
      | .ok grammar => decide
          (grammar.leftRecursion? = some (.leftRecursion "first" ["first", "second", "first"]))
      | .error _ => false) = true := by
    decide +kernel
  split at checked
  · rename_i grammar numbering
    have found := of_decide_eq_true checked
    obtain ⟨least, exactly, _⟩ := leftRecursion?_exact numbering
    refine ⟨grammar, numbering, found, least, exactly.mp ?_⟩
    rw [found]
    exact Option.some_ne_none _
  · contradiction

end Draft

end Packrat
