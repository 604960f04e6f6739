/-!
# Spans

A span is a half-open range of positions in a source, counted in characters. Nodes, diagnostics and
cached matches all carry one.
-/

namespace Packrat

/-- A half-open range of positions. -/
structure Span where
  /-- The first position inside the span. -/
  start : Nat
  /-- The first position after the span. -/
  stop : Nat
deriving DecidableEq, Repr, Inhabited

namespace Span

/-- The span that holds no position and stands at `position`. -/
def point (position : Nat) : Span :=
  ⟨position, position⟩

/-- The written form of a span, its two ends joined by two dots. -/
def text (span : Span) : String :=
  s!"{span.start}..{span.stop}"

/-- The smallest span with two given spans inside it. -/
def join (left right : Span) : Span :=
  ⟨min left.start right.start, max left.stop right.stop⟩

/-- The smallest span with every span of a list inside it, if the list holds any. -/
def covering : List Span → Option Span
  | [] => none
  | first :: later => some (later.foldl join first)

end Span

end Packrat
