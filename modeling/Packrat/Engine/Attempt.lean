import Packrat.Diagnostic
import Packrat.Grammar.Basic

/-!
# Attempts

While a rule is matched, the rules it tries form a tree. The tree is kept with a cached match, so
that using the match again leaves the same attempts behind as matching again would.

What a failure reports is collected as the attempts are made: the rules that failed, or that matched
where they should not have, at the furthest position reached. A rule that got no further than its
parts replaces them, unless there is exactly one of them.
-/

namespace Packrat

/-- What was tried while a rule was matched. -/
inductive Attempt where
  /-- A rule was tried at a position and matched or not, after the attempts inside it. -/
  | rule (id : RuleId) (origin : Nat) (matched : Bool) (inside : List Attempt)
  /-- Attempts that were made to see them fail. -/
  | negation (inside : List Attempt)
deriving Repr, Inhabited

namespace Attempt

mutual
/-- How many rules were tried in an attempt. -/
def size : Attempt → Nat
  | rule _ _ _ inside => sizeAll inside + 1
  | negation inside => sizeAll inside

/-- How many rules were tried in several attempts. -/
def sizeAll : List Attempt → Nat
  | [] => 0
  | attempt :: later => size attempt + sizeAll later
end

end Attempt

/-- Names in the order in which they were noted, with their number at hand. -/
structure NameLog where
  /-- The names, the last one first. -/
  newestFirst : List String
  /-- How many names there are. -/
  size : Nat
  /-- The number is that of the names. -/
  size_eq : size = newestFirst.length
deriving DecidableEq, Repr

namespace NameLog

/-- No names. -/
def empty : NameLog :=
  ⟨[], 0, rfl⟩

/-- The names in the order in which they were noted. -/
def toList (names : NameLog) : List String :=
  names.newestFirst.reverse

/-- The names with one more. -/
def push (names : NameLog) (name : String) : NameLog :=
  ⟨name :: names.newestFirst, names.size + 1, by rw [List.length_cons, names.size_eq]⟩

/-- The first names, up to a number. -/
def truncate (names : NameLog) (count : Nat) : NameLog :=
  ⟨names.newestFirst.drop (names.size - count), min count names.size, by
    rw [List.length_drop, names.size_eq]
    omega⟩

/-- The number of names is the length of their list. -/
theorem length_toList (names : NameLog) : names.toList.length = names.size := by
  rw [toList, List.length_reverse, names.size_eq]

/-- A name is noted after those that are there. -/
theorem toList_push (names : NameLog) (name : String) :
    (names.push name).toList = names.toList ++ [name] := by
  rw [toList, push, List.reverse_cons, toList]

/-- Cutting back keeps the names that were noted first. -/
theorem toList_truncate (names : NameLog) (count : Nat) :
    (names.truncate count).toList = names.toList.take count := by
  change (names.newestFirst.drop (names.size - count)).reverse = _
  rw [toList, List.take_reverse, names.size_eq]

end NameLog

/-- What a failure reports: the rules tried in vain at the furthest position. -/
structure Attempts where
  /-- The furthest position. -/
  position : Nat
  /-- The rules that failed there. -/
  expected : NameLog
  /-- The rules that matched there and should not have. -/
  unexpected : NameLog
deriving DecidableEq, Repr

/-- How many attempts had been noted when a rule was entered. -/
structure AttemptsMark where
  /-- How many rules had failed. -/
  expected : Nat
  /-- How many rules had matched and should not have. -/
  unexpected : Nat
  /-- How many of both at the rule's own position. -/
  here : Nat
deriving DecidableEq, Repr

namespace Attempts

variable {P : Type}

/-- Nothing tried. -/
def none : Attempts :=
  ⟨0, .empty, .empty⟩

/-- How many attempts are noted at a position. -/
def countAt (attempts : Attempts) (position : Nat) : Nat :=
  if position = attempts.position then attempts.expected.size + attempts.unexpected.size else 0

/-- What is remembered when a rule is entered at a position. -/
def mark (attempts : Attempts) (position : Nat) : AttemptsMark :=
  ⟨attempts.expected.size, attempts.unexpected.size, attempts.countAt position⟩

/-- The attempts after those made inside a rule at a position are forgotten; attempts at an earlier
position are all forgotten. -/
def collapse (attempts : Attempts) (position : Nat) (mark : AttemptsMark) : Attempts :=
  if position = attempts.position then
    { attempts with
      expected := attempts.expected.truncate mark.expected
      unexpected := attempts.unexpected.truncate mark.unexpected }
  else if attempts.position < position then ⟨position, .empty, .empty⟩
  else attempts

/-- The attempts with one more name, if it was tried at the furthest position. -/
def add (attempts : Attempts) (position : Nat) (negated : Bool) (name : String) : Attempts :=
  if position = attempts.position then
    if negated then { attempts with unexpected := attempts.unexpected.push name }
    else { attempts with expected := attempts.expected.push name }
  else attempts

/-- The attempts after a rule entered at a position was tried in vain. Rules without a name are not
reported, and a rule inside which exactly one attempt was noted leaves it at that. -/
def track (attempts : Attempts) (rule : Occurrence P) (position : Nat) (mark : AttemptsMark)
    (negated : Bool) : Attempts :=
  if !rule.isReported then attempts
  else if attempts.countAt position = mark.here + 1 then attempts
  else (attempts.collapse position mark).add position negated rule.expected

mutual
/-- The attempts after an attempt is made again under a number of negations. A rule counts as tried
in vain if it failed, or under a negation if it matched. -/
def retrace (grammar : Grammar P) (negations : Nat) : Attempt → Attempts → Attempts
  | .rule id origin matched inside, attempts =>
    let after := retraceAll grammar negations inside attempts
    let negated := decide (0 < negations)
    if matched == negated then
      after.track (grammar.rule id) origin (attempts.mark origin) negated
    else after
  | .negation inside, attempts => retraceAll grammar (negations + 1) inside attempts

/-- The attempts after several attempts are made again, one after the other. -/
def retraceAll (grammar : Grammar P) (negations : Nat) : List Attempt → Attempts → Attempts
  | [], attempts => attempts
  | attempt :: later, attempts =>
    retraceAll grammar negations later (retrace grammar negations attempt attempts)
end

/-- A list of names in order, each once. -/
def distinct (names : List String) : List String :=
  (names.mergeSort (· ≤ ·)).eraseReps

/-- The message of a failure after these attempts. -/
def message (attempts : Attempts) : String :=
  Diagnostic.failureMessage (distinct attempts.expected.toList)
    (distinct attempts.unexpected.toList)

end Attempts

end Packrat
