import Packrat.Builder.Basic

/-!
# Emitters

An emitter is the builder of streams. It keeps, without children, the nodes of structural rules that
end outside every other structural rule. A rule that fails takes back what was emitted inside it.
-/

namespace Packrat

/-- A node that was emitted. -/
structure Emission where
  /-- How many rules were open around it. -/
  around : Nat
  /-- The node. -/
  node : Node

/-- The open rules and the nodes emitted so far. -/
structure Emitter where
  /-- One more than the number of structural rules that are open; zero while nothing is matched. -/
  depth : Nat
  /-- For every open rule, the innermost first, whether it is structural. -/
  structural : List Bool
  /-- The nodes emitted in this pass, in order. -/
  pending : List Emission

namespace Emitter

/-- The emitter before anything is matched. -/
def initial : Emitter :=
  ⟨0, [], []⟩

/-- The emitter after the innermost rule has ended. -/
def leave (emitter : Emitter) : Emitter :=
  match emitter.structural with
  | true :: outer => { emitter with structural := outer, depth := emitter.depth - 1 }
  | false :: outer => { emitter with structural := outer }
  | [] => emitter

/-- The emitter with more nodes emitted, if it stands outside every structural rule. -/
def emit (emitter : Emitter) (nodes : List Node) : Emitter :=
  if emitter.depth = 1 then
    let emissions := nodes.map fun node => ⟨emitter.structural.length, node.stripped⟩
    { emitter with pending := emitter.pending ++ emissions }
  else emitter

/-- The emitter without what was emitted inside rules that are no longer open. -/
def takeBack (emitter : Emitter) : Emitter :=
  { emitter with
    pending := emitter.pending.filter fun emission => emission.around ≤ emitter.structural.length }

/-- The nodes of this pass. -/
def nodes (emitter : Emitter) : List Node :=
  emitter.pending.map (·.node)

instance : Builder Emitter where
  begin _ emitter := { emitter with depth := 1, structural := [] }
  opened token emitter :=
    { emitter with
      structural := token.isSome :: emitter.structural
      depth := if token.isSome then emitter.depth + 1 else emitter.depth }
  produced production emitter :=
    match production with
    | .node token annotations span => emitter.leave.emit [.leaf token span annotations]
    | _ => emitter.leave
  failed emitter := emitter.leave.takeBack
  restored nodes emitter := emitter.leave.emit nodes
  collected emitter := emitter.pending.length
  cutBack count emitter := { emitter with pending := emitter.pending.take count }
  finish emitter := { emitter with depth := 0 }
  reset _ := initial

end Emitter

end Packrat
