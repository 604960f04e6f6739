import Packrat.Builder.Basic

/-!
# Node stacks

A node stack has one frame of collected nodes for every open rule, above a root frame that is always
there. It is the builder of trees: a rule that ends takes its frame off the stack and adds to the
frame below what its production says.
-/

namespace Packrat

/-- The nodes that an open rule has collected, in order. -/
structure Frame where
  /-- The nodes. -/
  nodes : List Node
deriving Inhabited

namespace Frame

/-- The frame without nodes. -/
def empty : Frame :=
  ⟨[]⟩

/-- The frame with one more node. -/
def append (frame : Frame) (node : Node) : Frame :=
  ⟨frame.nodes ++ [node]⟩

/-- The frame with more nodes. -/
def extend (frame : Frame) (nodes : List Node) : Frame :=
  ⟨frame.nodes ++ nodes⟩

/-- The frame without the nodes past a number. -/
def truncate (frame : Frame) (count : Nat) : Frame :=
  ⟨frame.nodes.take count⟩

/-- How many nodes there are. -/
def size (frame : Frame) : Nat :=
  frame.nodes.length

/-- The smallest span with every node inside it. -/
def span (frame : Frame) : Option Span :=
  Span.covering (frame.nodes.map Node.span)

/-- The written form of a frame. -/
def text (frame : Frame) : String :=
  Text.natural frame.size ++ " nodes"

end Frame

/-- The frames of the open rules above a root frame. -/
structure NodeStack where
  /-- The frames of the open rules, the innermost first. -/
  inner : List Frame
  /-- The frame below all rules. -/
  root : Frame
deriving Inhabited

namespace NodeStack

/-- The stack with an empty root frame and no other. -/
def initial : NodeStack :=
  ⟨[], .empty⟩

/-- How many frames there are, the root frame included. -/
def depth (stack : NodeStack) : Nat :=
  stack.inner.length + 1

/-- The frames, the root frame first. -/
def frames (stack : NodeStack) : List Frame :=
  stack.root :: stack.inner.reverse

/-- The stack with one more empty frame. -/
def push (stack : NodeStack) : NodeStack :=
  { stack with inner := .empty :: stack.inner }

/-- The innermost frame. -/
def top (stack : NodeStack) : Frame :=
  stack.inner.head?.getD stack.root

/-- The stack with its innermost frame changed. -/
def modifyTop (stack : NodeStack) (change : Frame → Frame) : NodeStack :=
  match stack.inner with
  | frame :: outer => { stack with inner := change frame :: outer }
  | [] => { stack with root := change stack.root }

/-- Takes the innermost frame off. The root frame stays; an empty frame is given in its place. -/
def pop (stack : NodeStack) : Frame × NodeStack :=
  match stack.inner with
  | frame :: outer => (frame, { stack with inner := outer })
  | [] => (.empty, stack)

/-- What there is to say if a frame were to be taken off now. -/
def complaint (stack : NodeStack) : Option Remark :=
  if stack.inner.isEmpty then some .rootFrameKept else none

/-- The written form of a stack, the innermost frame first. -/
def text (stack : NodeStack) : String :=
  "NodeStack: \n" ++ String.join (stack.frames.reverse.map fun frame => frame.text ++ "\n")

/-- A rule ended with a production. -/
def close (stack : NodeStack) (production : Production) : NodeStack :=
  let (frame, below) := stack.pop
  match production with
  | .node token annotations span =>
    below.modifyTop (·.append (.mk token span annotations frame.nodes))
  | .transparent => below.modifyTop (·.extend frame.nodes)
  | .discarded => below

instance : Builder NodeStack where
  begin _ _ := initial
  opened _ stack := stack.push
  produced production stack := stack.close production
  failed stack := stack.pop.2
  restored nodes stack := stack.pop.2.modifyTop (·.extend nodes)
  collected stack := stack.top.size
  cutBack count stack := stack.modifyTop (·.truncate count)
  contributed since stack := some (stack.top.nodes.drop since)
  reset _ := initial
  complaint := complaint

end NodeStack

end Packrat
