/-!
# Bisection

A number is looked for in a table of increasing numbers by halving the stretch of the table in which
it can stand.
-/

namespace Packrat

/-- Where a number stands in a table, or where it would have to come in. -/
inductive Place (size : Nat) where
  /-- The number stands at an index. -/
  | held (index : Fin size)
  /-- The number is not in the table; it would come in before an index, or at the end. -/
  | missing (index : Fin (size + 1))
deriving DecidableEq, Repr

namespace Place

/-- The index of a place, whether the number stands there or not. -/
def index {size : Nat} : Place size → Nat
  | held index => index
  | missing index => index

end Place

/-- Looks for a number in the stretch of a table from `low` on and before `high`. -/
def bisectWithin (table : Array Nat) (number low high : Nat) (ordered : low ≤ high)
    (inside : high ≤ table.size) : Place table.size :=
  if wide : low < high then
    let middle := low + (high - low) / 2
    have before : middle < high := by
      have half := Nat.div_lt_self (Nat.sub_pos_of_lt wide) Nat.one_lt_two
      omega
    match compare table[middle] number with
    | .lt => bisectWithin table number (middle + 1) high before inside
    | .eq => .held ⟨middle, Nat.lt_of_lt_of_le before inside⟩
    | .gt =>
      bisectWithin table number low middle (Nat.le_add_right _ _)
        (Nat.le_of_lt (Nat.lt_of_lt_of_le before inside))
  else .missing ⟨low, Nat.lt_succ_of_le (Nat.le_trans ordered inside)⟩
termination_by high - low

/-- Looks for a number in a table. -/
def bisect (table : Array Nat) (number : Nat) : Place table.size :=
  bisectWithin table number 0 table.size (Nat.zero_le _) (Nat.le_refl _)

end Packrat
