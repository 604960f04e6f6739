import Packrat.Builder.Emitter
import Packrat.Proofs.Chronicle
import Packrat.Proofs.Verdict

/-!
# What becomes of emitted nodes

An emitter keeps its nodes in one list, each with the number of rules that were open around it, its
level. A rule that fails takes back every node of a deeper level than its own, also nodes that were
left before the rule started. So a node that was left stays only as long as no rule fails at a
shallower level than the node's. The attempts of a pass tell where nodes are left and where rules
fail (`Attempt.events`), and if no rule fails at a shallower level than a node left before it
(`Orderly`), every node that stands in the innermost frame of a node stack stands in the emitter
too, and every node in the emitter that no rule around it hides stands in the frame
(`emissionChronicle`).
-/

namespace Packrat

variable {P : Type}

/-! ## Events -/

/-- What happens to emitted nodes while attempts are made. -/
inductive Event where
  /-- A node was left at a level. -/
  | left (level : Nat)
  /-- A rule failed at a level. -/
  | failed (level : Nat)
  /-- A rule that leaves nothing matched around nodes that were left. -/
  | hidden
deriving DecidableEq, Repr

namespace Event

/-- Whether a node was left. -/
def isLeft : Event → Bool
  | left _ => true
  | _ => false

/-- Whether a rule failed. -/
def isFailed : Event → Bool
  | failed _ => true
  | _ => false

/-- Whether a node emitted at a level stays in an event. -/
def spares (level : Nat) : Event → Bool
  | failed outer => level ≤ outer
  | _ => true

/-- Whether the node of an event, if there is one, stays in another event. -/
def lasts (later : Event) : Event → Bool
  | left level => later.spares level
  | _ => true

/-- Whether an event happens at a level or deeper. -/
def isWithin (level : Nat) : Event → Bool
  | left inner => level ≤ inner
  | failed inner => level ≤ inner
  | hidden => true

/-- An event that happens deeper than a level happens at the level or deeper. -/
theorem isWithin_of_succ {level : Nat} {event : Event}
    (deeper : event.isWithin (level + 1) = true) : event.isWithin level = true := by
  cases event with
  | left inner => exact decide_eq_true (Nat.le_of_succ_le (of_decide_eq_true deeper))
  | failed inner => exact decide_eq_true (Nat.le_of_succ_le (of_decide_eq_true deeper))
  | hidden => rfl

end Event

/-- Every node that is left stays in all later events. -/
def Orderly (events : List Event) : Prop :=
  events.Pairwise fun earlier later => later.lasts earlier = true

instance (events : List Event) : Decidable (Orderly events) :=
  inferInstanceAs (Decidable (events.Pairwise fun earlier later => later.lasts earlier = true))

/-- Whether a match of a rule leaves a node around the nodes of its parts. -/
def Occurrence.leavesNode (rule : Occurrence P) : Bool :=
  rule.shape == .node && !rule.behaviour.lookahead

/-- Whether a match of a rule without a token leaves nothing of the nodes of its parts. -/
def Occurrence.hides (rule : Occurrence P) : Bool :=
  rule.behaviour.isSkipping || rule.behaviour.lookahead

namespace Attempt

mutual
/-- The events of an attempt that is made at a level. Inside a rule with a token only failures
matter, and inside a rule that failed nothing does. -/
def events (grammar : Grammar P) (level : Nat) : Attempt → List Event
  | rule id _ false _ =>
    if (grammar.rule id).annotations.pinned then [.failed level, .left level] else [.failed level]
  | rule id _ true inside =>
    let within := eventsAll grammar (level + 1) inside
    if (grammar.rule id).token.isSome then
      within.filter Event.isFailed ++
        (if (grammar.rule id).leavesNode then [.left level] else [])
    else within ++ (if (grammar.rule id).hides && within.any Event.isLeft then [.hidden] else [])
  | negation inside => eventsAll grammar level inside

/-- The events of attempts that are made one after the other at a level. -/
def eventsAll (grammar : Grammar P) (level : Nat) : List Attempt → List Event
  | [] => []
  | attempt :: later => events grammar level attempt ++ eventsAll grammar level later
end

/-- The events of attempts come in the order of the attempts. -/
theorem eventsAll_append (grammar : Grammar P) (level : Nat) (earlier later : List Attempt) :
    eventsAll grammar level (earlier ++ later) =
      eventsAll grammar level earlier ++ eventsAll grammar level later := by
  induction earlier with
  | nil => rfl
  | cons attempt rest ih => rw [List.cons_append, eventsAll, eventsAll, ih, List.append_assoc]

/-- The events of one attempt are those of the attempt alone. -/
theorem eventsAll_singleton (grammar : Grammar P) (level : Nat) (attempt : Attempt) :
    eventsAll grammar level [attempt] = events grammar level attempt := by
  rw [eventsAll, eventsAll, List.append_nil]

mutual
/-- The events of an attempt happen at its level or deeper. -/
theorem isWithin_events (grammar : Grammar P) (level : Nat) :
    ∀ (attempt : Attempt), ∀ event ∈ events grammar level attempt, event.isWithin level = true
  | rule id _ false _, event, member => by
    have own : event = .failed level ∨ event = .left level := by
      rw [events] at member
      split at member <;> simp_all
    rcases own with rfl | rfl <;> exact decide_eq_true (Nat.le_refl level)
  | rule id _ true inside, event, member => by
    have deeper := isWithin_eventsAll grammar (level + 1) inside
    rw [events] at member
    have own : event ∈ eventsAll grammar (level + 1) inside ∨ event = .left level ∨
        event = .hidden := by
      split at member
      · rcases List.mem_append.mp member with failure | last
        · exact .inl ((List.mem_filter.mp failure).1)
        · split at last <;> simp_all
      · rcases List.mem_append.mp member with inner | last
        · exact .inl inner
        · split at last <;> simp_all
    rcases own with inner | rfl | rfl
    · exact Event.isWithin_of_succ (deeper event inner)
    · exact decide_eq_true (Nat.le_refl level)
    · rfl
  | negation inside, event, member => by
    rw [events] at member
    exact isWithin_eventsAll grammar level inside event member

/-- The events of several attempts happen at their level or deeper. -/
theorem isWithin_eventsAll (grammar : Grammar P) (level : Nat) :
    ∀ (attempts : List Attempt), ∀ event ∈ eventsAll grammar level attempts,
      event.isWithin level = true
  | [], event, member => by
    rw [eventsAll] at member
    contradiction
  | attempt :: later, event, member => by
    rw [eventsAll] at member
    rcases List.mem_append.mp member with first | rest
    · exact isWithin_events grammar level attempt event first
    · exact isWithin_eventsAll grammar level later event rest
end

end Attempt

/-! ## Emitters -/

/-- Whether an emission stays in all events. -/
def Emission.outlasts (events : List Event) (emission : Emission) : Bool :=
  events.all (·.spares emission.around)

/-- An emission stays in events one after the other if it stays in the first and in the second. -/
theorem Emission.outlasts_append {emission : Emission} {earlier later : List Event} :
    emission.outlasts (earlier ++ later) = (emission.outlasts earlier && emission.outlasts later) :=
  List.all_append

/-- Only failures decide whether an emission stays. -/
theorem Emission.outlasts_failures (emission : Emission) (events : List Event) :
    emission.outlasts (events.filter Event.isFailed) = emission.outlasts events := by
  induction events with
  | nil => rfl
  | cons event later ih =>
    cases event <;>
      simp_all [Emission.outlasts, Event.isFailed, Event.spares]

/-- An emission stays where nothing fails. -/
theorem Emission.outlasts_append_calm (emission : Emission) (events : List Event)
    {calm : List Event}
    (noFailure : calm.any Event.isFailed = false) :
    emission.outlasts (events ++ calm) = emission.outlasts events := by
  have stays : emission.outlasts calm = true := by
    refine List.all_eq_true.mpr fun event member => ?_
    have noFailed := List.any_eq_false.mp noFailure event member
    cases event with
    | failed level => exact absurd rfl noFailed
    | left level => rfl
    | hidden => rfl
  rw [Emission.outlasts_append, stays, Bool.and_true]

/-- The end of a rule after which nodes were emitted leaves the rule's own emitter with them. -/
theorem Emitter.leave_opened (token : Option Token) (emitter : Emitter) (pending : List Emission) :
    Emitter.leave { (Builder.opened token emitter : Emitter) with pending } =
      { emitter with pending } := by
  cases token <;> rfl

/-- An emitter that has begun has begun inside a rule. -/
theorem Emitter.one_le_opened (token : Option Token) {emitter : Emitter}
    (begun : 1 ≤ emitter.depth) : 1 ≤ (Builder.opened token emitter : Emitter).depth := by
  cases token with
  | none => exact begun
  | some token => exact Nat.le_succ_of_le begun

/-- No rule of a grammar that makes a node is replaced by its children. -/
def Grammar.keepsNodes (grammar : Grammar P) : Bool :=
  grammar.rules.toList.all fun rule => rule.behaviour.token.isNone || !rule.annotations.transient

/-- A rule with a token that is replaced by its children is not in a grammar that keeps nodes. -/
theorem Grammar.keepsNodes_of_transient (grammar : Grammar P) {id : RuleId} {token : Token}
    (named : (grammar.rule id).token = some token)
    (transient : (grammar.rule id).annotations.transient = true) : grammar.keepsNodes = false := by
  have structural : (grammar.rule id).behaviour.token.isSome = true := by
    rw [← Option.isSome_map, ← Occurrence.token, named]
    rfl
  unfold rule at structural transient
  cases found : grammar.rules[id]? with
  | none =>
    rw [found] at structural
    contradiction
  | some occurrence =>
    rw [found] at structural transient
    have stands : occurrence.behaviour.token.isSome = true := structural
    have replaced : occurrence.annotations.transient = true := transient
    refine List.all_eq_false.mpr ⟨occurrence, (Array.mem_of_getElem? found).val, ?_⟩
    rw [← Option.not_isSome, stands, replaced]
    nofun

/-- What a match leaves, by whether the rule has a token: a rule without one leaves the nodes of its
parts or nothing, a rule with one leaves a node unless it is dropped or replaced by its children. -/
theorem leaving_cases (rule : Occurrence P) (span : Span) :
    (rule.token = none ∧ leaving rule span = if rule.hides then .discarded else .transparent) ∨
    ∃ token, rule.token = some token ∧
      ((rule.leavesNode = true ∧ leaving rule span = .node token rule.annotations span) ∨
        (rule.leavesNode = false ∧ (leaving rule span = .discarded ∨
          (leaving rule span = .transparent ∧ rule.annotations.transient = true)))) := by
  obtain ⟨name, description, ⟨kind, cardinality, negate, lookahead⟩, annotations, body⟩ := rule
  cases kind <;> cases lookahead <;>
    simp [leaving, production, Occurrence.token, Occurrence.shape, Occurrence.leavesNode,
      Occurrence.hides, Behaviour.token, Behaviour.isSkipping]
  cases annotations.void <;> cases annotations.transient <;> simp

/-- How a node stack and an emitter change in some events: the innermost frame collects nodes, and
the emitter keeps what stays in the events and emits further nodes. -/
structure Explains (grammar : Grammar P) (events : List Event) (nodes : List Node)
    (emitted : List Emission) (before after : NodeStack × Emitter) : Prop where
  /-- The innermost frame collects the nodes. -/
  stack : after.1 = before.1.adding nodes
  /-- The emitter keeps what stays and emits more. -/
  emitter : after.2 =
    { before.2 with pending := before.2.pending.filter (·.outlasts events) ++ emitted }
  /-- What is emitted was left in the events. -/
  left : ∀ emission ∈ emitted, .left emission.around ∈ events
  /-- Inside a rule with a token nothing is emitted. -/
  inside : before.2.depth ≠ 1 → emitted = []
  /-- Outside such rules every node collected is emitted, if all that is left stays. -/
  complete : grammar.keepsNodes = true → before.2.depth = 1 → Orderly events →
    (nodes.map Node.stripped).Sublist (emitted.map Emission.node)
  /-- Every node emitted is collected, if all that is left stays and nothing is hidden. -/
  sound : Orderly events → .hidden ∉ events →
    (∀ emission ∈ before.2.pending, emission.outlasts events = true) →
    (emitted.map Emission.node).Sublist (nodes.map Node.stripped)

namespace Explains

variable {grammar : Grammar P} {events earlier later : List Event} {nodes : List Node}
  {emitted : List Emission} {before middle after : NodeStack × Emitter}

/-- Nothing happens. -/
theorem nothing (grammar : Grammar P) (both : NodeStack × Emitter) :
    Explains grammar [] [] [] both both where
  stack := (NodeStack.adding_nil _).symm
  emitter := by
    have all : both.2.pending.filter (·.outlasts []) = both.2.pending :=
      List.filter_eq_self.mpr fun _ _ => rfl
    rw [all, List.append_nil]
  left := fun _ member => absurd member List.not_mem_nil
  inside := fun _ => rfl
  complete := fun _ _ _ => .slnil
  sound := fun _ _ _ => .slnil

/-- What is emitted in orderly events stays in those behind them. -/
theorem outlasts_of_orderly (explains : Explains grammar earlier nodes emitted before middle)
    (orderly : Orderly (earlier ++ later)) :
    ∀ emission ∈ emitted, emission.outlasts later = true := by
  intro emission member
  have stays := (List.pairwise_append.mp orderly).2.2 _ (explains.left emission member)
  exact List.all_eq_true.mpr stays

/-- What happens one after the other happens in order. -/
theorem append {laterNodes : List Node} {laterEmitted : List Emission}
    (first : Explains grammar earlier nodes emitted before middle)
    (second : Explains grammar later laterNodes laterEmitted middle after) :
    Explains grammar (earlier ++ later) (nodes ++ laterNodes)
      (emitted.filter (·.outlasts later) ++ laterEmitted) before after where
  stack := by rw [second.stack, first.stack, NodeStack.adding_append]
  emitter := by
    have kept : (before.2.pending.filter (·.outlasts earlier)).filter (·.outlasts later) =
        before.2.pending.filter (·.outlasts (earlier ++ later)) := by
      rw [List.filter_filter]
      congr 1
      funext emission
      rw [Emission.outlasts_append, Bool.and_comm]
    rw [second.emitter, first.emitter, List.filter_append, kept, List.append_assoc]
  left := by
    intro emission member
    rcases List.mem_append.mp member with kept | new
    · exact List.mem_append_left _ (first.left emission (List.mem_filter.mp kept).1)
    · exact List.mem_append_right _ (second.left emission new)
  inside := by
    intro deep
    have deepStill : middle.2.depth ≠ 1 := by
      rw [first.emitter]
      exact deep
    rw [first.inside deep, second.inside deepStill]
    rfl
  complete := by
    intro keeps top orderly
    obtain ⟨firstOrderly, secondOrderly, _⟩ := List.pairwise_append.mp orderly
    have topStill : middle.2.depth = 1 := by
      rw [first.emitter]
      exact top
    rw [List.filter_eq_self.mpr (first.outlasts_of_orderly orderly), List.map_append,
      List.map_append]
    exact (first.complete keeps top firstOrderly).append
      (second.complete keeps topStill secondOrderly)
  sound := by
    intro orderly shown stays
    obtain ⟨firstOrderly, secondOrderly, _⟩ := List.pairwise_append.mp orderly
    have lasting := first.outlasts_of_orderly orderly
    have stayFirst : ∀ emission ∈ before.2.pending, emission.outlasts earlier = true :=
      fun emission member =>
        (Bool.and_eq_true_iff.mp (Emission.outlasts_append ▸ stays emission member)).1
    have staySecond : ∀ emission ∈ middle.2.pending, emission.outlasts later = true := by
      intro emission member
      rw [first.emitter] at member
      rcases List.mem_append.mp member with kept | new
      · have old := stays emission (List.mem_filter.mp kept).1
        exact (Bool.and_eq_true_iff.mp (Emission.outlasts_append ▸ old)).2
      · exact lasting emission new
    rw [List.filter_eq_self.mpr lasting, List.map_append, List.map_append]
    exact (first.sound firstOrderly (fun hidden => shown (List.mem_append_left _ hidden))
        stayFirst).append
      (second.sound secondOrderly (fun hidden => shown (List.mem_append_right _ hidden)) staySecond)

/-- The innermost frame collects what a match leaves of the nodes collected inside. -/
theorem stack_produced {token : Option Token} (production : Production)
    (inner : Explains grammar events nodes emitted (Builder.opened token before) after) :
    (Builder.produced production after).1 = before.1.adding (production.leaves nodes) :=
  NodeStack.ledger.produced production inner.stack

/-- The end of a rule leaves the emitter of the rule around with what was emitted inside. -/
theorem leave_emitter {token : Option Token}
    (inner : Explains grammar events nodes emitted (Builder.opened token before) after) :
    after.2.leave =
      { before.2 with pending := before.2.pending.filter (·.outlasts events) ++ emitted } := by
  rw [inner.emitter]
  exact Emitter.leave_opened token before.2 _

/-- A rule without a token that matched hands on what was emitted inside, and hands on the nodes
collected inside or hides them. -/
theorem matched_bare {span : Span} {rule : Occurrence P} (bare : rule.token = none)
    (leaves : leaving rule span = if rule.hides then .discarded else .transparent)
    (inner : Explains grammar events nodes emitted (Builder.opened rule.token before) after) :
    Explains grammar
      (events ++ if rule.hides && events.any Event.isLeft then [.hidden] else [])
      ((leaving rule span).leaves nodes) emitted before
      (Builder.produced (leaving rule span) after) := by
  have depth : (Builder.opened rule.token before).2.depth = before.2.depth := by
    rw [bare]
    rfl
  have same : ∀ emission : Emission, emission.outlasts
      (events ++ if rule.hides && events.any Event.isLeft then [.hidden] else []) =
      emission.outlasts events := by
    intro emission
    refine emission.outlasts_append_calm events ?_
    split <;> rfl
  refine ⟨inner.stack_produced _, ?_, ?_, ?_, ?_, ?_⟩
  · simp only [same]
    rw [← inner.leave_emitter, leaves]
    split <;> rfl
  · exact fun emission member => List.mem_append_left _ (inner.left emission member)
  · exact fun deep => inner.inside (depth ▸ deep)
  · intro keeps top orderly
    rw [leaves]
    split
    · exact List.nil_sublist _
    · exact inner.complete keeps (depth ▸ top) (List.pairwise_append.mp orderly).1
  · intro orderly shown stays
    cases hides : rule.hides with
    | false =>
      have transparent : leaving rule span = .transparent := by
        rw [leaves, hides]
        rfl
      rw [transparent]
      exact inner.sound (List.pairwise_append.mp orderly).1
        (fun hidden => shown (List.mem_append_left _ hidden))
        fun emission member => same emission ▸ stays emission member
    | true =>
      rw [hides] at shown
      have noneLeft : events.any Event.isLeft = false := by
        by_contra someLeft
        rw [eq_true_of_ne_false someLeft] at shown
        exact shown (List.mem_append_right _ (List.mem_singleton.mpr rfl))
      have nothing : emitted = [] := by
        refine List.eq_nil_iff_forall_not_mem.mpr fun emission member => ?_
        exact absurd rfl (List.any_eq_false.mp noneLeft _ (inner.left emission member))
      rw [nothing]
      exact List.nil_sublist _

/-- A node that is made after some events is collected, and is emitted outside rules with a token.
-/
theorem emitting (events : List Event) (made : Node)
    (stack : after.1 = before.1.adding [made])
    (emitter : after.2 =
      Emitter.emit { before.2 with pending := before.2.pending.filter (·.outlasts events) }
        [made]) :
    Explains grammar (events ++ [.left before.2.structural.length]) [made]
      (if before.2.depth = 1 then [⟨before.2.structural.length, made.stripped⟩] else [])
      before after := by
  have same : ∀ emission : Emission,
      emission.outlasts (events ++ [.left before.2.structural.length]) = emission.outlasts events :=
    fun emission => emission.outlasts_append_calm events rfl
  by_cases top : before.2.depth = 1
  · rw [if_pos top]
    refine ⟨stack, ?_, ?_, fun deep => absurd top deep, fun _ _ _ => ?_, fun _ _ _ => ?_⟩
    · simp only [same]
      rw [emitter, Emitter.emit, if_pos top]
      rfl
    · intro emission member
      rw [List.mem_singleton.mp member]
      exact List.mem_append_right _ (List.mem_singleton.mpr rfl)
    · exact List.Sublist.refl _
    · exact List.Sublist.refl _
  · rw [if_neg top]
    refine ⟨stack, ?_, nofun, fun _ => rfl, fun _ only => absurd only top,
      fun _ _ _ => List.nil_sublist _⟩
    simp only [same]
    rw [emitter, Emitter.emit, if_neg top, List.append_nil]

/-- A rule with a token that matched emits its node, unless it leaves none or stands inside another
rule with a token. -/
theorem matched_token {span : Span} {rule : Occurrence P} {token : Token}
    (named : rule.token = some token) (begun : 1 ≤ before.2.depth)
    (leaves : (rule.leavesNode = true ∧ leaving rule span = .node token rule.annotations span) ∨
        (rule.leavesNode = false ∧ (leaving rule span = .discarded ∨
          (leaving rule span = .transparent ∧ grammar.keepsNodes = false))))
    (inner : Explains grammar events nodes emitted (Builder.opened rule.token before) after) :
    ∃ emitted, Explains grammar
      (events.filter Event.isFailed ++
        if rule.leavesNode then [.left before.2.structural.length] else [])
      ((leaving rule span).leaves nodes) emitted before
      (Builder.produced (leaving rule span) after) := by
  have depth : (Builder.opened rule.token before).2.depth = before.2.depth + 1 := by
    rw [named]
    rfl
  obtain rfl : emitted = [] := inner.inside (by omega)
  have left := inner.leave_emitter
  rcases leaves with ⟨leavesNode, leaves⟩ | ⟨leavesNone, leaves⟩
  · rw [if_pos leavesNode, leaves]
    refine ⟨_, emitting _ _ (inner.stack_produced (.node token rule.annotations span)) ?_⟩
    simp only [Emission.outlasts_failures]
    change after.2.leave.emit [.leaf token span rule.annotations] = _
    rw [left, List.append_nil]
    rfl
  · rw [if_neg (by simp [leavesNone]), List.append_nil]
    refine ⟨[], inner.stack_produced _, ?_, nofun, fun _ => rfl, ?_,
      fun _ _ _ => List.nil_sublist _⟩
    · simp only [Emission.outlasts_failures]
      rw [← left]
      rcases leaves with leaves | ⟨leaves, _⟩ <;> rw [leaves] <;> rfl
    · intro keeps _ _
      rcases leaves with leaves | ⟨_, loses⟩
      · rw [leaves]
        exact List.nil_sublist _
      · rw [keeps] at loses
        contradiction

/-- A rule that matched changes a node stack and an emitter as its attempt says. -/
theorem matched {inside : List Attempt} (id : RuleId) (origin : Nat) (span : Span)
    (begun : 1 ≤ before.2.depth)
    (inner : Explains grammar
      (Attempt.eventsAll grammar (before.2.structural.length + 1) inside) nodes emitted
      (Builder.opened (grammar.rule id).token before) after) :
    ∃ nodes emitted, Explains grammar
      (Attempt.events grammar before.2.structural.length (.rule id origin true inside))
      nodes emitted before (Builder.produced (leaving (grammar.rule id) span) after) := by
  rw [Attempt.events]
  rcases leaving_cases (grammar.rule id) span with ⟨bare, leaves⟩ | ⟨token, named, leaves⟩
  · rw [if_neg (by simp [bare])]
    exact ⟨_, _, inner.matched_bare bare leaves⟩
  · rw [if_pos (by simp [named])]
    refine ⟨_, inner.matched_token named begun (leaves.imp_right fun ⟨leavesNone, leaves⟩ =>
      ⟨leavesNone, leaves.imp_right fun ⟨leaves, transient⟩ => ⟨leaves, ?_⟩⟩)⟩
    exact grammar.keepsNodes_of_transient named transient

/-- What was emitted inside a rule that failed is taken back, with every node of a deeper level. -/
theorem failed_emitter {inside : List Attempt} {token : Option Token}
    (inner : Explains grammar
      (Attempt.eventsAll grammar (before.2.structural.length + 1) inside) nodes emitted
      (Builder.opened token before) after) :
    (Builder.failed after).2 = before.2.takeBack := by
  have within := Attempt.isWithin_eventsAll grammar (before.2.structural.length + 1) inside
  have gone :
      emitted.filter (fun emission => emission.around ≤ before.2.structural.length) = [] := by
    refine List.filter_eq_nil_iff.mpr fun emission member shallow => ?_
    have deep := of_decide_eq_true (within _ (inner.left emission member))
    have level := of_decide_eq_true shallow
    omega
  have kept : ∀ emission : Emission, decide (emission.around ≤ before.2.structural.length) = true →
      emission.outlasts (Attempt.eventsAll grammar (before.2.structural.length + 1) inside) =
        true := by
    intro emission shallow
    refine List.all_eq_true.mpr fun event member => ?_
    have level := of_decide_eq_true shallow
    cases event with
    | left _ => rfl
    | hidden => rfl
    | failed outer =>
      have deep := of_decide_eq_true (within _ member)
      exact decide_eq_true (by omega)
  change after.2.leave.takeBack = _
  rw [inner.leave_emitter, Emitter.takeBack, Emitter.takeBack]
  simp only [List.filter_append, gone, List.append_nil, List.filter_filter]
  congr 1
  refine List.filter_congr fun emission _ => ?_
  cases shallow : decide (emission.around ≤ before.2.structural.length) with
  | false => exact Bool.false_and _
  | true => rw [kept emission shallow, Bool.true_and]

/-- A rule that failed leaves nothing, or an error node if it is pinned. -/
theorem failed {last : NodeStack × Emitter} (id : RuleId) (origin : Nat) (inside : List Attempt)
    (stack : (Builder.failed last).1 = before.1)
    (emitter : (Builder.failed last).2 = before.2.takeBack) :
    ∃ nodes emitted, Explains grammar
      (Attempt.events grammar before.2.structural.length (.rule id origin false inside))
      nodes emitted before (giveUp grammar (grammar.rule id) origin last) := by
  have failing : (·.outlasts [.failed before.2.structural.length]) =
      fun emission : Emission => decide (emission.around ≤ before.2.structural.length) := by
    funext emission
    exact Bool.and_true _
  have back : before.2.takeBack =
      { before.2 with
        pending := before.2.pending.filter (·.outlasts [.failed before.2.structural.length]) } := by
    rw [failing]
    rfl
  rw [Attempt.events]
  unfold giveUp
  split
  · refine ⟨_, _, emitting [.failed before.2.structural.length]
      (errorNode grammar (grammar.rule id) origin) ?_ ?_⟩
    · rw [← stack]
      exact NodeStack.ledger.leaf _ (some .error) .error _ _
    · rw [← back, ← emitter]
      rfl
  · refine ⟨[], [], stack.trans (NodeStack.adding_nil _).symm, ?_, nofun, fun _ => rfl,
      fun _ _ _ => .slnil, fun _ _ _ => .slnil⟩
    rw [emitter, back, List.append_nil]

/-- Whatever was collected in some events may be given back. -/
theorem cutBack (explains : Explains grammar events nodes emitted before after) :
    ∃ emitted, Explains grammar events [] emitted before
      (Builder.cutBack (Builder.collected before) after) := by
  rw [cutBack_both]
  have taken : (before.2.pending.filter (·.outlasts events) ++ emitted).take
      before.2.pending.length =
      before.2.pending.filter (·.outlasts events) ++ emitted.take
        (before.2.pending.length - (before.2.pending.filter (·.outlasts events)).length) := by
    rw [List.take_append, List.take_of_length_le (List.length_filter_le _ _)]
  refine ⟨emitted.take (before.2.pending.length -
      (before.2.pending.filter (·.outlasts events)).length),
    NodeStack.ledger.cutBack explains.stack, ?_, ?_, ?_, fun _ _ _ => List.nil_sublist _, ?_⟩
  · rw [explains.emitter, ← taken]
    rfl
  · exact fun emission member => explains.left emission (List.mem_of_mem_take member)
  · intro deep
    rw [explains.inside deep, List.take_nil]
  · intro _ _ stays
    rw [List.filter_eq_self.mpr stays, Nat.sub_self, List.take_zero]
    exact List.nil_sublist _

end Explains

/-- How a node stack and an emitter change while attempts are made. -/
def emissionChronicle (grammar : Grammar P) : Chronicle (NodeStack × Emitter) grammar where
  Spans before attempts after := 1 ≤ before.2.depth → ∃ nodes emitted,
    Explains grammar (Attempt.eventsAll grammar before.2.structural.length attempts) nodes emitted
      before after
  nothing both _ := ⟨[], [], .nothing grammar both⟩
  append := by
    intro first second third earlier later early late begun
    obtain ⟨nodes, emitted, explains⟩ := early begun
    have same : second.2.depth = first.2.depth ∧ second.2.structural = first.2.structural := by
      rw [explains.emitter]
      exact ⟨rfl, rfl⟩
    obtain ⟨laterNodes, laterEmitted, laterExplains⟩ := late (same.1 ▸ begun)
    rw [same.2] at laterExplains
    rw [Attempt.eventsAll_append]
    exact ⟨_, _, explains.append laterExplains⟩
  matched := by
    intro before after inside id origin span inner begun
    obtain ⟨nodes, emitted, explains⟩ := inner (Emitter.one_le_opened _ begun)
    rw [Attempt.eventsAll_singleton]
    exact explains.matched id origin span begun
  failed := by
    intro before after inside id origin inner begun
    obtain ⟨nodes, emitted, explains⟩ := inner (Emitter.one_le_opened _ begun)
    rw [Attempt.eventsAll_singleton]
    refine Explains.failed id origin inside ?_ explains.failed_emitter
    exact NodeStack.eq_of_adds_nil (NodeStack.ledger.failed explains.stack)
  recalled := by
    intro before id origin inside begun
    rw [Attempt.eventsAll_singleton]
    have opened : Explains grammar
        (Attempt.eventsAll grammar (before.2.structural.length + 1) []) [] []
        (Builder.opened (grammar.rule id).token before)
        (Builder.opened (grammar.rule id).token before) := by
      rw [Attempt.eventsAll]
      exact .nothing grammar _
    exact Explains.failed id origin inside rfl opened.failed_emitter
  cutBack := by
    intro before after attempts spans begun
    obtain ⟨nodes, emitted, explains⟩ := spans begun
    exact ⟨[], explains.cutBack⟩
  negation := by
    intro before after inside spans begun
    obtain ⟨nodes, emitted, explains⟩ := spans begun
    rw [Attempt.eventsAll_singleton, Attempt.events]
    exact ⟨[], explains.cutBack⟩

end Packrat
