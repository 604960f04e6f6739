import Mathlib.Data.List.Nodup
import Mathlib.Data.List.Perm.Subperm
import Packrat.Proofs.BoundedCache

/-!
# The capacity of a cache

A consistent cache holds no more outcomes than its bounds allow (`MatchCache.IsConsistent.size_le`),
and it can be filled up to that number (`MatchCache.isFilled_filling`). The capacity is the product
of the bounds in words of 64 bits, so it bounds what a cache holds just if the product fits a word
(`MatchCache.size_le_capacity_iff`).
-/

namespace Packrat

namespace MatchCache

variable {cache : MatchCache}

/-! ## No more than the bounds allow -/

/-- Slots that list at most some number of rules hold at most that many outcomes each. -/
theorem countEntries_le {slots : List CacheSlot} {breadth : Nat}
    (within : ∀ slot ∈ slots, slot.IsWithin breadth) :
    countEntries slots ≤ slots.length * breadth := by
  induction slots with
  | nil => exact Nat.zero_le _
  | cons slot later ih =>
    obtain ⟨first, others⟩ := List.forall_mem_cons.mp within
    have entries : slot.entries.length ≤ breadth := by
      have bounded := first.bounded
      rwa [CacheSlot.rules, List.length_map] at bounded
    have rest := ih others
    rw [countEntries, List.length_cons, Nat.succ_mul]
    omega

/-- A consistent cache has as many slots as positions. -/
theorem IsConsistent.length_slots (consistent : cache.IsConsistent) :
    cache.slots.length = cache.positions.length := by
  have same : cache.keys.Perm cache.positions := by
    rw [List.perm_ext_iff_of_nodup consistent.keyed_once consistent.queued_once]
    intro position
    exact (consistent.listed position).symm
  have lengths := same.length_eq
  rwa [keys, List.length_map] at lengths

/-- A consistent cache holds at most as many outcomes as its bounds allow. -/
theorem IsConsistent.size_le (consistent : cache.IsConsistent) :
    cache.size ≤ cache.bounds.depth * cache.bounds.breadth := by
  have slots := consistent.length_slots
  calc
    cache.size ≤ cache.slots.length * cache.bounds.breadth := countEntries_le consistent.within
    _ ≤ cache.bounds.depth * cache.bounds.breadth := by
      rw [slots]
      exact Nat.mul_le_mul_right _ consistent.bounded

/-! ## As many as the bounds allow -/

/-- The keys under which a cache holds something. -/
def heldKeys (cache : MatchCache) : List (Nat × RuleId) :=
  cache.slots.flatMap fun slot => slot.rules.map (slot.position, ·)

/-- A cache has as many keys as outcomes. -/
theorem length_heldKeys (cache : MatchCache) : cache.heldKeys.length = cache.size := by
  unfold heldKeys size
  induction cache.slots with
  | nil => rfl
  | cons slot later ih =>
    rw [List.flatMap_cons, List.length_append, ih, countEntries, List.length_map, CacheSlot.rules,
      List.length_map]

/-- A key under which something is found is one of the cache. -/
theorem mem_heldKeys {position : Nat} {rule : RuleId} {result : MatchResult}
    (found : cache.find? position rule = some result) : (position, rule) ∈ cache.heldKeys := by
  obtain ⟨slot, held, outcome⟩ := Option.bind_eq_some_iff.mp found
  obtain ⟨stored, here⟩ := of_slotAt held
  refine List.mem_flatMap.mpr ⟨slot, stored, List.mem_map.mpr ⟨rule, ?_, by rw [here]⟩⟩
  by_contra unlisted
  rw [CacheSlot.lookup_eq_none unlisted] at outcome
  contradiction

/-- The key with a number, where every position has the rules before some bound in order. -/
def keyAt (breadth number : Nat) : Nat × RuleId :=
  (number / breadth, number % breadth)

/-- Keys with other numbers are other keys. -/
theorem keyAt_injective (breadth : Nat) : Function.Injective (keyAt breadth) := by
  intro left right same
  have positions : left / breadth = right / breadth := congrArg Prod.fst same
  have rules : left % breadth = right % breadth := congrArg Prod.snd same
  rw [← Nat.div_add_mod left breadth, ← Nat.div_add_mod right breadth, positions, rules]

/-- Failures are put in under the first keys, in order. -/
def filling (breadth count : Nat) : List Operation :=
  (List.range count).map fun number =>
    .insert (keyAt breadth number).1 (keyAt breadth number).2 (.failure [])

/-- A cache in which the first keys are found, and no others. -/
structure IsFilled (cache : MatchCache) (count : Nat) : Prop where
  /-- The cache is consistent. -/
  consistent : cache.IsConsistent
  /-- Something is found under every one of the first keys. -/
  found : ∀ number < count, ∃ result,
    cache.find? (keyAt cache.bounds.breadth number).1 (keyAt cache.bounds.breadth number).2 =
      some result
  /-- Nothing is found under another key. -/
  only : ∀ position rule result, cache.find? position rule = some result →
    ∃ number < count, keyAt cache.bounds.breadth number = (position, rule)

/-- A rule that a slot lists has an outcome there. -/
theorem exists_lookup {slot : CacheSlot} {rule : RuleId} (listed : rule ∈ slot.rules) :
    ∃ outcome, slot.entries.lookup rule = some outcome := by
  rw [← Option.isSome_iff_exists, Option.isSome_iff_ne_none]
  intro nothing
  obtain ⟨entry, stored, rfl⟩ := List.mem_map.mp listed
  have differs := List.lookup_eq_none_iff.mp nothing entry stored
  rw [bne_self_eq_false] at differs
  contradiction

/-- Under a position that is held something is found. -/
theorem IsConsistent.exists_found (consistent : cache.IsConsistent) {position : Nat}
    (queued : position ∈ cache.positions) :
    ∃ rule result, cache.find? position rule = some result := by
  obtain ⟨slot, held⟩ := Option.isSome_iff_exists.mp (consistent.slotAt_isSome_iff.mpr queued)
  have inhabited := (consistent.within slot (of_slotAt held).1).inhabited
  obtain ⟨rule, listed⟩ := List.exists_mem_of_length_pos inhabited
  obtain ⟨outcome, found⟩ := exists_lookup listed
  refine ⟨rule, outcome, ?_⟩
  rw [find?, held]
  exact found

/-- An item that no item of a queue exceeds displaces none, if it would be in its place. -/
theorem displaced_eq_none {room item : Nat} {queue : List Nat} (distinct : queue.Nodup)
    (below : ∀ other ∈ queue, other ≤ item) (fits : item < room) :
    displaced room queue item = none := by
  by_cases member : item ∈ queue
  · exact displaced_of_mem member
  · have inside : queue ⊆ List.range item := by
      intro other queued
      have differs : other ≠ item := fun same => member (same ▸ queued)
      have most := below other queued
      rw [List.mem_range]
      omega
    have length := (List.subperm_of_subset distinct inside).length_le
    rw [List.length_range] at length
    have room_left : queue.length ≠ room := by omega
    rw [displaced, if_neg member, if_neg room_left]

/-- The next key has room beside those before it. -/
theorem IsFilled.not_evicts {count : Nat} (filled : cache.IsFilled count)
    (fits : count < cache.bounds.depth * cache.bounds.breadth) {other : Nat} {asked : RuleId} :
    ¬ cache.Evicts (keyAt cache.bounds.breadth count).1 (keyAt cache.bounds.breadth count).2 other
      asked := by
  have positive : 0 < cache.bounds.breadth := Nat.pos_of_lt_mul_left fits
  rintro (⟨_, leaves⟩ | ⟨held, leaves⟩)
  · have stays : displaced cache.bounds.depth cache.positions (count / cache.bounds.breadth) =
        none := by
      refine displaced_eq_none filled.consistent.queued_once (fun position queued => ?_)
        ((Nat.div_lt_iff_lt_mul positive).mpr fits)
      obtain ⟨rule, result, found⟩ := filled.consistent.exists_found queued
      obtain ⟨number, earlier, key⟩ := filled.only position rule result found
      have place : number / cache.bounds.breadth = position := congrArg Prod.fst key
      rw [← place]
      exact Nat.div_le_div_right (Nat.le_of_lt earlier)
    exact absurd (stays.symm.trans leaves) (Option.some_ne_none _).symm
  · rename_i slot
    have distinct := (filled.consistent.within slot (of_slotAt held).1).distinct
    have stays : displaced cache.bounds.breadth slot.rules (count % cache.bounds.breadth) =
        none := by
      refine displaced_eq_none distinct (fun rule listed => ?_) (Nat.mod_lt _ positive)
      obtain ⟨outcome, found⟩ := exists_lookup listed
      have remembered : cache.find? (count / cache.bounds.breadth) rule = some outcome := by
        have here : cache.slotAt (count / cache.bounds.breadth) = some slot := held
        rw [find?, here]
        exact found
      obtain ⟨number, earlier, key⟩ := filled.only _ rule outcome remembered
      have place : number / cache.bounds.breadth = count / cache.bounds.breadth :=
        congrArg Prod.fst key
      have remainder : number % cache.bounds.breadth = rule := congrArg Prod.snd key
      have whole := Nat.div_add_mod number cache.bounds.breadth
      have next := Nat.div_add_mod count cache.bounds.breadth
      rw [place] at whole
      omega
    exact absurd (stays.symm.trans leaves) (Option.some_ne_none _).symm

/-- With the next key put in, one more is found. -/
theorem IsFilled.insert {count : Nat} (filled : cache.IsFilled count)
    (fits : count < cache.bounds.depth * cache.bounds.breadth) (result : MatchResult) :
    (cache.insert (keyAt cache.bounds.breadth count).1 (keyAt cache.bounds.breadth count).2
      result).IsFilled (count + 1) := by
  have enabled : cache.isDisabled = false := by
    have deep : 0 < cache.bounds.depth := Nat.pos_of_lt_mul_right fits
    have broad : 0 < cache.bounds.breadth := Nat.pos_of_lt_mul_left fits
    simp only [isDisabled, Bool.or_eq_false_iff, beq_eq_false_iff_ne]
    omega
  constructor
  · exact filled.consistent.insert _ _ _
  · intro number earlier
    rw [bounds_insert]
    by_cases last : number = count
    · subst last
      exact ⟨result, filled.consistent.find?_insert_self enabled⟩
    · have differs : keyAt cache.bounds.breadth number ≠ keyAt cache.bounds.breadth count :=
        fun same => last (keyAt_injective _ same)
      obtain ⟨outcome, found⟩ := filled.found number (by omega)
      exact ⟨outcome, (filled.consistent.find?_insert_of_ne enabled differs).mpr
        ⟨found, filled.not_evicts fits⟩⟩
  · intro position rule outcome found
    rw [bounds_insert]
    by_cases last : keyAt cache.bounds.breadth count = (position, rule)
    · exact ⟨count, Nat.lt_succ_self _, last⟩
    · have differs : (position, rule) ≠ keyAt cache.bounds.breadth count :=
        fun same => last same.symm
      have old := ((filled.consistent.find?_insert_of_ne enabled differs).mp found).1
      obtain ⟨number, earlier, key⟩ := filled.only position rule outcome old
      exact ⟨number, Nat.lt_succ_of_lt earlier, key⟩

/-- As many keys as the bounds allow can be put in. -/
theorem isFilled_filling (bounds : CacheBounds) {count : Nat}
    (fits : count ≤ bounds.depth * bounds.breadth) :
    (after bounds (filling bounds.breadth count)).IsFilled count := by
  induction count with
  | zero =>
    have empty := agrees_after bounds []
    refine ⟨empty.consistent, fun number none => absurd none (Nat.not_lt_zero _), ?_⟩
    intro position rule result found
    have nothing := empty.found found
    contradiction
  | succ count ih =>
    have filled := ih (Nat.le_of_succ_le fits)
    have kept := bounds_after bounds (filling bounds.breadth count)
    have step : after bounds (filling bounds.breadth (count + 1)) =
        (after bounds (filling bounds.breadth count)).insert (keyAt bounds.breadth count).1
          (keyAt bounds.breadth count).2 (.failure []) := by
      rw [filling, List.range_succ, List.map_append, after, List.foldl_append]
      rfl
    rw [step]
    have next := filled.insert (by rw [kept]; exact fits) (.failure [])
    rwa [kept] at next

/-- A cache in which the first keys are found holds at least as many outcomes. -/
theorem IsFilled.le_size {count : Nat} (filled : cache.IsFilled count) : count ≤ cache.size := by
  have distinct : ((List.range count).map (keyAt cache.bounds.breadth)).Nodup :=
    List.nodup_range.map (keyAt_injective _)
  have inside : (List.range count).map (keyAt cache.bounds.breadth) ⊆ cache.heldKeys := by
    intro key listed
    obtain ⟨number, earlier, rfl⟩ := List.mem_map.mp listed
    obtain ⟨result, found⟩ := filled.found number (List.mem_range.mp earlier)
    exact mem_heldKeys found
  have length := (List.subperm_of_subset distinct inside).length_le
  rwa [List.length_map, List.length_range, length_heldKeys] at length

/-! ## The capacity -/

/-- The capacity is the product of the bounds, as far as it fits a word. -/
theorem capacity_eq (cache : MatchCache) (depth breadth : UInt64)
    (bounds : cache.bounds = ⟨depth.toNat, breadth.toNat⟩) :
    cache.capacity = depth.toNat * breadth.toNat % UInt64.size := by
  rw [capacity, bounds]
  simp

/-- After any operations a cache holds at most as many outcomes as its bounds allow. That is within
its capacity, whatever the operations, just if the product of the bounds fits a word. -/
theorem size_le_capacity_iff (depth breadth : UInt64) :
    (∀ operations, (after ⟨depth.toNat, breadth.toNat⟩ operations).size ≤
      depth.toNat * breadth.toNat) ∧
    ((∀ operations, (after ⟨depth.toNat, breadth.toNat⟩ operations).size ≤
      (after ⟨depth.toNat, breadth.toNat⟩ operations).capacity) ↔
        depth.toNat * breadth.toNat < UInt64.size) := by
  have capacity : ∀ operations, (after ⟨depth.toNat, breadth.toNat⟩ operations).capacity =
      depth.toNat * breadth.toNat % UInt64.size := by
    intro operations
    exact capacity_eq _ depth breadth (bounds_after _ operations)
  have most : ∀ operations, (after ⟨depth.toNat, breadth.toNat⟩ operations).size ≤
      depth.toNat * breadth.toNat := by
    intro operations
    have bounded := (agrees_after ⟨depth.toNat, breadth.toNat⟩ operations).consistent.size_le
    rwa [bounds_after] at bounded
  refine ⟨most, fun within => ?_, fun fits operations => ?_⟩
  · -- One outcome more than the capacity has room if the product does not fit.
    by_contra overflows
    have wraps : depth.toNat * breadth.toNat % UInt64.size < depth.toNat * breadth.toNat := by
      have word := Nat.mod_lt (depth.toNat * breadth.toNat) (show 0 < UInt64.size by decide)
      omega
    have filled := (isFilled_filling ⟨depth.toNat, breadth.toNat⟩ wraps).le_size
    have bounded := within (filling breadth.toNat (depth.toNat * breadth.toNat % UInt64.size + 1))
    rw [capacity] at bounded
    exact Nat.lt_irrefl _ (Nat.lt_of_lt_of_le filled bounded)
  · rw [capacity, Nat.mod_eq_of_lt fits]
    exact most operations

/-- The capacity of two positions with half a word of rules is nothing, and there is room. -/
theorem size_not_le_capacity :
    (after ⟨2, 9223372036854775808⟩ [.insert 0 0 (.failure [])]).size = 1 ∧
      (after ⟨2, 9223372036854775808⟩ [.insert 0 0 (.failure [])]).capacity = 0 := by
  decide +kernel

end MatchCache

end Packrat
