import Packrat.Span

/-!
# Trimming marks

A node does not cover what was skipped at its edges. While a rule is matched, a mark keeps where its
content starts and which skipped stretch, if any, it would end with.
-/

namespace Packrat

/-- What has been skipped at the edges of a match so far. -/
structure Mark where
  /-- Where the content starts. -/
  lead : Nat
  /-- The last stretch that was skipped after the content had started. -/
  trail : Option Span
  /-- Whether anything but skipping has happened. -/
  anchored : Bool
deriving DecidableEq, Repr

namespace Mark

/-- The mark of a rule that starts at a position. -/
def start (origin : Nat) : Mark :=
  ⟨origin, none, false⟩

/-- The mark after a stretch was skipped. -/
def skipped (mark : Mark) (start stop : Nat) : Mark :=
  if start = stop then mark
  else if !mark.anchored && start = mark.lead then { mark with lead := stop }
  else
    match mark.trail with
    | some trail =>
      if trail.stop = start then { mark with trail := some ⟨trail.start, stop⟩ }
      else { mark with trail := some ⟨start, stop⟩ }
    | none => { mark with trail := some ⟨start, stop⟩ }

/-- The mark after a part matched that is not skipped. -/
def consumed (mark : Mark) : Mark :=
  { mark with anchored := true, trail := none }

/-- The mark after a part matched that hands on the skipped edges of its own content. -/
def absorb (mark : Mark) (start stop : Nat) (content : Option Span) : Mark :=
  match content with
  | some content =>
    ((mark.skipped start content.start).consumed).skipped content.stop stop
  | none => mark.skipped start stop

/-- The content of a match that ends at a position. -/
def content (mark : Mark) (stop : Nat) : Span :=
  let last :=
    match mark.trail with
    | some trail => if trail.stop = stop then trail.start else stop
    | none => stop
  ⟨mark.lead, max last mark.lead⟩

/-- The content of a match that ends at a position, unless it was all skipped. -/
def summary (mark : Mark) (stop : Nat) : Option Span :=
  if mark.anchored then some (mark.content stop) else none

end Mark

end Packrat
