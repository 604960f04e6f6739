import Packrat.Builder.NodeStack

/-!
# Ledgers

Matching tells a builder of rules that start and end. A ledger says what the innermost open rule of
a builder has collected between two moments: a list of nodes. Its laws say how the notifications of
a rule turn what was collected inside the rule into what the rule leaves for the rule around it. For
node stacks the ledger is exact: the innermost frame grew by the nodes and nothing else changed.
-/

namespace Packrat

/-- What it means for a builder to have collected nodes, with one law for every notification. -/
structure Ledger (β : Type) [Builder β] where
  /-- From one moment to another the innermost open rule collected some nodes. -/
  Adds : β → List Node → β → Prop
  /-- No time collects nothing. -/
  nothing : ∀ builder, Adds builder [] builder
  /-- What is collected one after the other is collected in order. -/
  append : ∀ {first second third earlier later},
    Adds first earlier second → Adds second later third → Adds first (earlier ++ later) third
  /-- A rule that makes a node leaves it around what was collected inside. -/
  node : ∀ {before after opening nodes} (token : Token) (annotations : Annotations) (span : Span),
    Adds (Builder.opened opening before) nodes after →
      Adds before [.mk token span annotations nodes]
        (Builder.produced (.node token annotations span) after)
  /-- A transparent rule leaves what was collected inside. -/
  transparent : ∀ {before after opening nodes}, Adds (Builder.opened opening before) nodes after →
    Adds before nodes (Builder.produced .transparent after)
  /-- A discarded rule leaves nothing. -/
  discarded : ∀ {before after opening nodes}, Adds (Builder.opened opening before) nodes after →
    Adds before [] (Builder.produced .discarded after)
  /-- A rule that failed leaves nothing. -/
  failed : ∀ {before after opening nodes}, Adds (Builder.opened opening before) nodes after →
    Adds before [] (Builder.failed after)
  /-- A rule that brings nodes back leaves them. -/
  restored : ∀ (before : β) (opening : Option Token) (nodes : List Node),
    Adds before nodes (Builder.restored nodes (Builder.opened opening before))
  /-- Cutting back to what there was gives back everything collected since. -/
  cutBack : ∀ {before after nodes}, Adds before nodes after →
    Adds before [] (Builder.cutBack (Builder.collected before) after)
  /-- What a builder says was left since a moment is what was collected since. -/
  contributed : ∀ {before after nodes left}, Adds before nodes after →
    Builder.contributed (Builder.collected before) after = some left → left = nodes

/-- What a production leaves of the nodes collected inside a rule. -/
def Production.leaves (inside : List Node) : Production → List Node
  | .node token annotations span => [.mk token span annotations inside]
  | .transparent => inside
  | .discarded => []

/-- A rule that matched leaves what its production leaves of the nodes collected inside. -/
theorem Ledger.produced {β : Type} [Builder β] (ledger : Ledger β) {before after : β}
    {opening : Option Token} {nodes : List Node} (production : Production)
    (inner : ledger.Adds (Builder.opened opening before) nodes after) :
    ledger.Adds before (production.leaves nodes) (Builder.produced production after) := by
  cases production with
  | node token annotations span => exact ledger.node token annotations span inner
  | transparent => exact ledger.transparent inner
  | discarded => exact ledger.discarded inner

/-- A rule that starts and at once makes a node leaves a node without children. -/
theorem Ledger.leaf {β : Type} [Builder β] (ledger : Ledger β) (builder : β)
    (opening : Option Token) (token : Token) (annotations : Annotations) (span : Span) :
    ledger.Adds builder [.leaf token span annotations]
      (Builder.produced (.node token annotations span) (Builder.opened opening builder)) :=
  ledger.node token annotations span (ledger.nothing _)

namespace NodeStack

/-- The stack with more nodes in its innermost frame. -/
def adding (stack : NodeStack) (nodes : List Node) : NodeStack :=
  stack.modifyTop (·.extend nodes)

/-- Adding no nodes changes nothing. -/
@[simp] theorem adding_nil (stack : NodeStack) : stack.adding [] = stack := by
  obtain ⟨inner, root⟩ := stack
  cases inner <;> simp [adding, modifyTop, Frame.extend]

/-- Adding nodes twice adds them in order. -/
theorem adding_append (stack : NodeStack) (earlier later : List Node) :
    stack.adding (earlier ++ later) = (stack.adding earlier).adding later := by
  obtain ⟨inner, root⟩ := stack
  cases inner <;> simp [adding, modifyTop, Frame.extend]

/-- The innermost frame holds the nodes that were added after those it held. -/
theorem nodes_top_adding (stack : NodeStack) (nodes : List Node) :
    (stack.adding nodes).top.nodes = stack.top.nodes ++ nodes := by
  obtain ⟨inner, root⟩ := stack
  cases inner <;> rfl

/-- Cutting the innermost frame back to its size before nodes were added takes them away. -/
theorem cutBack_adding (stack : NodeStack) (nodes : List Node) :
    (stack.adding nodes).modifyTop (·.truncate stack.top.size) = stack := by
  obtain ⟨inner, root⟩ := stack
  cases inner <;>
    simp [adding, modifyTop, Frame.extend, Frame.truncate, top, Frame.size]

/-- The ledger of node stacks: the innermost frame grows by the nodes and nothing else changes. -/
def ledger : Ledger NodeStack where
  Adds before nodes after := after = before.adding nodes
  nothing stack := (adding_nil stack).symm
  append := by
    rintro first second third earlier later rfl rfl
    exact (adding_append first earlier later).symm
  node := by
    rintro before after opening nodes token annotations span rfl
    rfl
  transparent := by
    rintro before after opening nodes rfl
    rfl
  discarded := by
    rintro before after opening nodes rfl
    exact (adding_nil before).symm
  failed := by
    rintro before after opening nodes rfl
    exact (adding_nil before).symm
  restored before opening nodes := rfl
  cutBack := by
    rintro before after nodes rfl
    exact (cutBack_adding before nodes).trans (adding_nil before).symm
  contributed := by
    rintro before after nodes left rfl told
    obtain rfl := Option.some.inj told
    change ((before.adding nodes).top.nodes.drop before.top.size) = nodes
    rw [nodes_top_adding, Frame.size, List.drop_left]

/-- A node stack that collected nothing is the same. -/
theorem eq_of_adds_nil {before after : NodeStack} (same : ledger.Adds before [] after) :
    after = before :=
  same.trans (adding_nil before)

end NodeStack

end Packrat
