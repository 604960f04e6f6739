import Packrat.Text.Structured

/-!
# Traces

What matching tells about itself while it runs. A remark is a value; its level and its wording are
functions of it.
-/

namespace Packrat

/-- How much a remark matters. -/
inductive Level where
  /-- Every step. -/
  | trace
  /-- What helps to understand a result. -/
  | debug
  /-- What points at a mistake. -/
  | warn
deriving DecidableEq, Repr

/-- The written form of a level. -/
def Level.text : Level → String
  | trace => "TRACE"
  | debug => "DEBUG"
  | warn => "WARN"

/-- Something matching tells about itself. -/
inductive Remark where
  /-- A rule is being matched. -/
  | matching (rule : String) (position : Nat)
  /-- A cached match is used again. -/
  | reusing (rule : String) (position : Nat)
  /-- A pinned rule recovers. -/
  | recovering (rule : String) (position : Nat) (message : String)
  /-- A procedure asks for a name without definition. -/
  | unknownName (name : String)
  /-- A pass over the source failed. -/
  | passFailed (start : Nat) (message : String)
  /-- A pass over the source took nothing. -/
  | passStalled (start : Nat)
  /-- A pass of a stream failed. -/
  | streamFailed (start : Nat) (message : String)
  /-- A pass of a stream took nothing. -/
  | streamStalled (start : Nat)
  /-- The cache forgets a position. -/
  | positionEvicted (position : Nat)
  /-- The cache forgets a rule at a position. -/
  | ruleEvicted (position : Nat)
  /-- How the cache did. -/
  | cacheSummary (hits misses entries : Nat)
  /-- The root frame of a node stack was to be closed. -/
  | rootFrameKept
deriving DecidableEq, Repr

namespace Remark

/-- How much the remark matters. -/
def level : Remark → Level
  | matching _ _ => .trace
  | reusing _ _ => .trace
  | unknownName _ => .warn
  | rootFrameKept => .warn
  | _ => .debug

/-- The wording of a remark. -/
def message : Remark → String
  | matching rule position => "matching " ++ rule ++ " at " ++ Text.natural position
  | reusing rule position => "reusing cached match of " ++ rule ++ " at " ++ Text.natural position
  | recovering rule position message =>
    "recovering from " ++ rule ++ " at " ++ Text.natural position ++ ": " ++ message
  | unknownName name => "no rule is defined under " ++ name
  | passFailed start message =>
    "pass starting at " ++ Text.natural start ++ " failed: " ++ message
  | passStalled start => "pass starting at " ++ Text.natural start ++ " consumed nothing"
  | streamFailed start message =>
    "stream pass starting at " ++ Text.natural start ++ " failed: " ++ message
  | streamStalled start => "stream pass starting at " ++ Text.natural start ++ " consumed nothing"
  | positionEvicted position => "evicting cached matches at position " ++ Text.natural position
  | ruleEvicted position =>
    "evicting the oldest cached rule at position " ++ Text.natural position
  | cacheSummary hits misses entries =>
    "match cache: " ++ Text.natural hits ++ " hits, " ++ Text.natural misses ++ " misses, " ++
      Text.natural entries ++ " entries"
  | rootFrameKept => "attempted to pop the root frame of a NodeStack"

/-- A remark with its level in front. -/
def line (remark : Remark) : String :=
  remark.level.text ++ " " ++ remark.message

end Remark

end Packrat
