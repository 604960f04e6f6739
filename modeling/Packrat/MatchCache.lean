import Packrat.Config
import Packrat.Engine.Attempt
import Packrat.Trace

/-!
# Match caches

A match cache remembers the outcome of matching a rule at a position. It holds a bounded number of
positions and at each of them a bounded number of rules; when a bound is reached the oldest goes. A
queue says which position came in first, and a table has a slot for each of them.

Room for all positions is reserved where a cache is made. Bounds are taken to be ones for which
there is that much memory; from 2^60 positions on there never is, and no cache comes of such bounds.
-/

namespace Packrat

/-- A match that is remembered. -/
structure RememberedMatch where
  /-- Where the match ended. -/
  stop : Nat
  /-- The match without skipped edges, unless there is nothing else. -/
  content : Option Span
  /-- What the match left for the rule around it. -/
  nodes : List Node
  /-- The diagnostics of rules that recovered inside. -/
  diagnostics : List Diagnostic
  /-- The attempts made. -/
  attempts : List Attempt

/-- The remembered outcome of matching a rule at a position. -/
inductive MatchResult where
  /-- The rule matched. -/
  | success (remembered : RememberedMatch)
  /-- The rule did not match, after some attempts. -/
  | failure (attempts : List Attempt)

/-- What is remembered at a position. -/
structure CacheSlot where
  /-- The position. -/
  position : Nat
  /-- The rules with their outcomes, the oldest first. -/
  entries : List (RuleId × MatchResult)

namespace CacheSlot

/-- The entries of a slot with the outcome of a rule put in place of the one it had. -/
def replace (rule : RuleId) (result : MatchResult) (entries : List (RuleId × MatchResult)) :
    List (RuleId × MatchResult) :=
  entries.map fun entry => if entry.1 = rule then (rule, result) else entry

/-- The slot with an outcome remembered, the oldest rule making room if there are too many. -/
def insert (slot : CacheSlot) (breadth : Nat) (rule : RuleId) (result : MatchResult) : CacheSlot :=
  if slot.entries.any (·.1 == rule) then { slot with entries := replace rule result slot.entries }
  else if slot.entries.length = breadth then
    { slot with entries := slot.entries.drop 1 ++ [(rule, result)] }
  else { slot with entries := slot.entries ++ [(rule, result)] }

end CacheSlot

/-- A bounded memory of match outcomes. -/
structure MatchCache where
  /-- The bounds. -/
  bounds : CacheBounds
  /-- The queue of the positions held, the oldest first. -/
  positions : List Nat
  /-- The table of what is remembered at a position. -/
  slots : List CacheSlot
  /-- How many questions found an answer. -/
  hits : Nat
  /-- How many questions found none. -/
  misses : Nat

namespace MatchCache

/-- The cache that remembers nothing, with bounds for which there is memory. -/
def empty (bounds : CacheBounds) : MatchCache :=
  ⟨bounds, [], [], 0, 0⟩

/-- What is remembered at a position. -/
def slotAt (cache : MatchCache) (position : Nat) : Option CacheSlot :=
  cache.slots.find? (·.position == position)

/-- The remembered outcome of a rule at a position. -/
def find? (cache : MatchCache) (position : Nat) (rule : RuleId) : Option MatchResult :=
  (cache.slotAt position).bind fun slot => slot.entries.lookup rule

/-- Asks for the outcome of a rule at a position, and counts the question. -/
def get (cache : MatchCache) (position : Nat) (rule : RuleId) : Option MatchResult × MatchCache :=
  match cache.find? position rule with
  | some result => (some result, { cache with hits := cache.hits + 1 })
  | none => (none, { cache with misses := cache.misses + 1 })

/-- Whether the bounds leave no room at all. -/
def isDisabled (cache : MatchCache) : Bool :=
  cache.bounds.depth == 0 || cache.bounds.breadth == 0

/-- Whether every position there is room for is taken. -/
def isFull (cache : MatchCache) : Bool :=
  cache.positions.length == cache.bounds.depth

/-- The cache with its oldest position forgotten. -/
def dropOldest (cache : MatchCache) : MatchCache :=
  match cache.positions with
  | [] => cache
  | oldest :: later =>
    { cache with positions := later, slots := cache.slots.filter (·.position != oldest) }

/-- The cache with room for one more position. -/
def withRoom (cache : MatchCache) : MatchCache :=
  if cache.isFull then cache.dropOldest else cache

/-- The cache with a slot for a position. One that was not held comes in last, with nothing
remembered there. -/
def holding (cache : MatchCache) (position : Nat) : MatchCache :=
  if (cache.slotAt position).isSome then cache
  else
    { cache.withRoom with
      positions := cache.withRoom.positions ++ [position]
      slots := cache.withRoom.slots ++ [⟨position, []⟩] }

/-- The cache with the outcome of a rule at a position remembered. -/
def insert (cache : MatchCache) (position : Nat) (rule : RuleId) (result : MatchResult) :
    MatchCache :=
  if cache.isDisabled then cache
  else
    { cache.holding position with
      slots := (cache.holding position).slots.map fun slot =>
        if slot.position = position then slot.insert cache.bounds.breadth rule result else slot }

/-- What has to go for the outcome of a rule at a position to be remembered. -/
def evictions (cache : MatchCache) (position : Nat) (rule : RuleId) : List Remark :=
  if cache.isDisabled then []
  else
    match cache.slotAt position with
    | some slot =>
      if slot.entries.any (·.1 == rule) then []
      else if slot.entries.length = cache.bounds.breadth then [.ruleEvicted position]
      else []
    | none =>
      if cache.isFull then cache.positions.head?.toList.map .positionEvicted else []

/-- How many outcomes several slots hold. -/
def countEntries : List CacheSlot → Nat
  | [] => 0
  | slot :: later => slot.entries.length + countEntries later

/-- How many outcomes are remembered. -/
def size (cache : MatchCache) : Nat :=
  countEntries cache.slots

/-- Whether nothing is remembered. -/
def isEmpty (cache : MatchCache) : Bool :=
  cache.slots.isEmpty

/-- How many outcomes the bounds have room for, counted in words of 64 bits. -/
def capacity (cache : MatchCache) : Nat :=
  (cache.bounds.depth.toUInt64 * cache.bounds.breadth.toUInt64).toNat

/-- The cache with everything forgotten but its counts. -/
def clear (cache : MatchCache) : MatchCache :=
  { cache with positions := [], slots := [] }

end MatchCache

end Packrat
