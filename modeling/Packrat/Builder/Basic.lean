import Packrat.Node
import Packrat.Trace

/-!
# Builders

A builder receives a notification when a rule starts and one when it ends, and makes something out
of them. The notifications nest like brackets: what ends is always the rule that started last.
-/

namespace Packrat

/-- What a match leaves for the rule around it. -/
inductive Production where
  /-- A node around whatever the parts of the rule left. -/
  | node (token : Token) (annotations : Annotations) (span : Span)
  /-- Whatever the parts of the rule left. -/
  | transparent
  /-- Nothing. -/
  | discarded
deriving DecidableEq, Repr

/-- A state that notifications about matching change. -/
class Builder (β : Type) where
  /-- Matching of a source starts. -/
  begin : Source → β → β
  /-- A rule starts, with its token if it is structural. -/
  opened : Option Token → β → β
  /-- The rule that started last matched. -/
  produced : Production → β → β
  /-- The rule that started last failed. -/
  failed : β → β
  /-- The rule that started last matched as it did before and brings back what it left then. -/
  restored : List Node → β → β
  /-- How much the innermost open rule has collected. -/
  collected : β → Nat := fun _ => 0
  /-- The innermost open rule gives back what it collected past a number. -/
  cutBack : Nat → β → β := fun _ builder => builder
  /-- What the rule that ended last left past a number, if it is known. -/
  contributed : Nat → β → Option (List Node) := fun _ _ => none
  /-- Matching of the source has ended. -/
  finish : β → β := fun builder => builder
  /-- Everything left from earlier is forgotten. -/
  reset : β → β := fun builder => builder
  /-- What there is to say if a rule were to end now. -/
  complaint : β → Option Remark := fun _ => none

end Packrat
