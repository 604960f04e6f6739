import Packrat.Proofs.Memory

/-!
# Caches as bounded maps

A cache keeps the positions it holds twice: in a queue, which says what has to go next, and as the
keys of a table. Whatever is done with a cache, the two stay in step and the bounds are kept
(`MatchCache.IsConsistent`). What is found in it is what a map without bounds would hold under the
same key (`MatchCache.Operation.record`), and putting something in takes nothing away but what stood
first in the queue, or first among the rules of its position (`MatchCache.Evicts`).
-/

namespace Packrat

/-! ## Queues with bounded room -/

/-- The queue with an item in it: one that was not there comes in last, and the first one makes room
for it if there is no other. -/
def enqueue (room : Nat) (queue : List Nat) (item : Nat) : List Nat :=
  if item ∈ queue then queue
  else (if queue.length = room then queue.tail else queue) ++ [item]

/-- The item that has to leave the queue for another to come in. -/
def displaced (room : Nat) (queue : List Nat) (item : Nat) : Option Nat :=
  if item ∈ queue then none
  else if queue.length = room then queue.head?
  else none

section Queues

variable {room item other : Nat} {queue : List Nat}

/-- An item that is in the queue displaces nothing. -/
theorem displaced_of_mem (member : item ∈ queue) : displaced room queue item = none :=
  if_pos member

/-- In the queue are the item that came in and those that were not displaced. -/
theorem mem_enqueue (distinct : queue.Nodup) :
    other ∈ enqueue room queue item ↔
      other = item ∨ (other ∈ queue ∧ displaced room queue item ≠ some other) := by
  unfold enqueue displaced
  split
  · rename_i member
    constructor
    · intro inside
      exact .inr ⟨inside, Option.some_ne_none other |>.symm⟩
    · rintro (rfl | ⟨inside, _⟩)
      · exact member
      · exact inside
  · split
    · cases queue with
      | nil => simp
      | cons first later =>
        have absent : first ∉ later := (List.nodup_cons.mp distinct).1
        by_cases same : other = first
        · subst same
          simp [absent]
        · have apart : ¬ first = other := fun equal => same equal.symm
          simp [same, apart, or_comm]
    · simp [or_comm]

/-- An item comes in only once. -/
theorem nodup_enqueue (distinct : queue.Nodup) : (enqueue room queue item).Nodup := by
  unfold enqueue
  split
  · exact distinct
  · rename_i absent
    have fresh : ∀ kept : List Nat, kept.Sublist queue → (kept ++ [item]).Nodup := by
      intro kept among
      refine List.nodup_append.mpr ⟨distinct.sublist among, by simp, ?_⟩
      rintro old stays new added rfl
      exact absent (List.mem_singleton.mp added ▸ among.subset stays)
    split
    · exact fresh _ (List.tail_sublist _)
    · exact fresh _ (List.Sublist.refl _)

/-- The queue never holds more than there is room for. -/
theorem length_enqueue_le (some_room : 1 ≤ room) (bounded : queue.length ≤ room) :
    (enqueue room queue item).length ≤ room := by
  unfold enqueue
  split
  · exact bounded
  · rw [List.length_append, List.length_singleton]
    split
    · rw [List.length_tail]
      omega
    · omega

/-- A queue with an item in it is not empty. -/
theorem length_enqueue_pos : 1 ≤ (enqueue room queue item).length := by
  unfold enqueue
  split
  · rename_i member
    exact List.length_pos_of_mem member
  · rw [List.length_append, List.length_singleton]
    omega

end Queues

/-! ## Slots -/

namespace CacheSlot

/-- The rules that a slot lists, the oldest first. -/
def rules (slot : CacheSlot) : List RuleId :=
  slot.entries.map Prod.fst

/-- A slot that lists at least one rule, not more than a number of them, and none of them twice. -/
structure IsWithin (breadth : Nat) (slot : CacheSlot) : Prop where
  /-- Some rule is listed. -/
  inhabited : 1 ≤ slot.rules.length
  /-- Not too many rules are listed. -/
  bounded : slot.rules.length ≤ breadth
  /-- No rule is listed twice. -/
  distinct : slot.rules.Nodup

variable {slot : CacheSlot} {breadth : Nat} {rule other : RuleId} {result : MatchResult}

/-- Replacing the outcome of a rule leaves the rules that are listed. -/
theorem map_fst_replace (rule : RuleId) (result : MatchResult)
    (entries : List (RuleId × MatchResult)) :
    (replace rule result entries).map Prod.fst = entries.map Prod.fst := by
  unfold replace
  rw [List.map_map]
  refine List.map_congr_left fun entry _ => ?_
  rw [Function.comp_apply]
  split
  · rename_i same
    exact same.symm
  · rfl

/-- A rule is looked for among the rules that are listed. -/
theorem any_eq_true_iff : slot.entries.any (·.1 == rule) = true ↔ rule ∈ slot.rules := by
  simp [rules]

/-- The rules of a slot are a queue. -/
theorem rules_insert (slot : CacheSlot) (breadth : Nat) (rule : RuleId) (result : MatchResult) :
    (slot.insert breadth rule result).rules = enqueue breadth slot.rules rule := by
  have counted : slot.rules.length = slot.entries.length := List.length_map ..
  unfold insert enqueue
  simp only [any_eq_true_iff, counted]
  split
  · exact map_fst_replace rule result slot.entries
  · split
    · simp [rules]
    · simp [rules]

/-- Putting an outcome in keeps a slot within its bound, and fills it if it was empty. -/
theorem isWithin_insert (room : 1 ≤ breadth) (bounded : slot.rules.length ≤ breadth)
    (distinct : slot.rules.Nodup) : (slot.insert breadth rule result).IsWithin breadth := by
  constructor
  · rw [rules_insert]
    exact length_enqueue_pos
  · rw [rules_insert]
    exact length_enqueue_le room bounded
  · rw [rules_insert]
    exact nodup_enqueue distinct

/-- A rule that is not listed has no outcome. -/
theorem lookup_eq_none {entries : List (RuleId × MatchResult)}
    (unlisted : rule ∉ entries.map Prod.fst) : entries.lookup rule = none := by
  rw [List.lookup_eq_none_iff]
  intro entry member
  rw [bne_iff_ne]
  rintro rfl
  exact unlisted (List.mem_map_of_mem member)

/-- Of entries in which the outcome of a rule was replaced, each rule has the outcome it had, and
the rule the new one. -/
theorem lookup_replace (entries : List (RuleId × MatchResult)) :
    (replace rule result entries).lookup other =
      if other = rule ∧ rule ∈ entries.map Prod.fst then some result else entries.lookup other := by
  induction entries with
  | nil => simp [replace]
  | cons entry later ih =>
    obtain ⟨first, outcome⟩ := entry
    unfold replace at ih ⊢
    rw [List.map_cons, List.lookup_cons, ih]
    by_cases same : other = first
    · by_cases here : first = rule <;> simp [same, here]
    · have apart : (other == first) = false := beq_eq_false_iff_ne.mpr same
      by_cases here : first = rule
      · subst here
        simp [same, apart, List.lookup_cons]
      · have listed : rule ∈ List.map Prod.fst ((first, outcome) :: later) ↔
            rule ∈ List.map Prod.fst later := by
          rw [List.map_cons, List.mem_cons, or_iff_right fun equal => here equal.symm]
        simp only [here, if_false, apart, List.lookup_cons, listed]

/-- The outcome that was put in is found. -/
theorem lookup_insert_self :
    (slot.insert breadth rule result).entries.lookup rule = some result := by
  have appended : ∀ kept : List (RuleId × MatchResult), rule ∉ kept.map Prod.fst →
      (kept ++ [(rule, result)]).lookup rule = some result := by
    intro kept unlisted
    simp [List.lookup_append, lookup_eq_none unlisted]
  unfold insert
  simp only [any_eq_true_iff]
  split
  · rename_i listed
    rw [lookup_replace, if_pos ⟨rfl, listed⟩]
  · rename_i unlisted
    split
    · refine appended _ fun kept => unlisted ?_
      rw [List.map_drop] at kept
      exact List.mem_of_mem_drop kept
    · exact appended _ unlisted

/-- Every other rule has the outcome it had, unless it has to make room. -/
theorem lookup_insert_of_ne (distinct : slot.rules.Nodup) (differs : other ≠ rule)
    {outcome : MatchResult} :
    (slot.insert breadth rule result).entries.lookup other = some outcome ↔
      slot.entries.lookup other = some outcome ∧
        displaced breadth slot.rules rule ≠ some other := by
  have counted : slot.rules.length = slot.entries.length := List.length_map ..
  have appended : ∀ kept : List (RuleId × MatchResult),
      (kept ++ [(rule, result)]).lookup other = kept.lookup other := by
    intro kept
    have apart : (other == rule) = false := beq_eq_false_iff_ne.mpr differs
    simp [List.lookup_append, List.lookup_cons, apart]
  unfold insert displaced
  simp only [any_eq_true_iff, counted]
  split
  · rw [lookup_replace, if_neg fun both => differs both.1]
    simp
  · split
    · rw [appended]
      obtain ⟨position, entries⟩ := slot
      cases entries with
      | nil => simp
      | cons entry later =>
        obtain ⟨first, held⟩ := entry
        simp only [rules, List.map_cons, List.nodup_cons] at distinct ⊢
        by_cases same : other = first
        · subst same
          simp [lookup_eq_none distinct.1]
        · have apart : (other == first) = false := beq_eq_false_iff_ne.mpr same
          simp [List.lookup_cons, apart, Ne.symm same]
    · rw [appended]
      simp

end CacheSlot

/-! ## Caches -/

namespace MatchCache

/-- The positions that the table of a cache has slots for. -/
def keys (cache : MatchCache) : List Nat :=
  cache.slots.map CacheSlot.position

/-- A cache whose queue and table hold the same positions, each once, and which keeps its bounds. -/
structure IsConsistent (cache : MatchCache) : Prop where
  /-- No position stands in the queue twice. -/
  queued_once : cache.positions.Nodup
  /-- No position has two slots. -/
  keyed_once : cache.keys.Nodup
  /-- The queue lists the positions that have a slot. -/
  listed : ∀ position, position ∈ cache.positions ↔ position ∈ cache.keys
  /-- Not too many positions are held. -/
  bounded : cache.positions.length ≤ cache.bounds.depth
  /-- Every slot lists some rules, not too many, and none twice. -/
  within : ∀ slot ∈ cache.slots, slot.IsWithin cache.bounds.breadth

/-- What goes when the outcome of a rule at a position is put in. -/
inductive Evicts (cache : MatchCache) (position : Nat) (rule : RuleId) : Nat → RuleId → Prop where
  /-- Everything at the position that stands first in the queue. -/
  | position {oldest : Nat} (other : RuleId)
      (leaves : displaced cache.bounds.depth cache.positions position = some oldest) :
      Evicts cache position rule oldest other
  /-- The rule that stands first at the position itself. -/
  | rule {slot : CacheSlot} {oldest : RuleId} (held : cache.slotAt position = some slot)
      (leaves : displaced cache.bounds.breadth slot.rules rule = some oldest) :
      Evicts cache position rule position oldest

variable {cache : MatchCache} {position other : Nat} {rule : RuleId} {result : MatchResult}
  {slot : CacheSlot}

/-- A slot that is found for a position is in the table, at that position. -/
theorem of_slotAt (held : cache.slotAt position = some slot) :
    slot ∈ cache.slots ∧ slot.position = position := by
  unfold slotAt at held
  exact ⟨List.mem_of_find?_eq_some held, by simpa using List.find?_some held⟩

/-- A slot is found for the positions that the table has slots for. -/
theorem slotAt_isSome_iff : (cache.slotAt position).isSome ↔ position ∈ cache.keys := by
  simp [slotAt, keys, List.find?_isSome]

/-- Asking for an outcome gives what is remembered. -/
theorem fst_get (cache : MatchCache) (position : Nat) (rule : RuleId) :
    (cache.get position rule).1 = cache.find? position rule := by
  unfold get
  split <;> simp_all

/-- A consistent cache has a slot for the positions in its queue. -/
theorem IsConsistent.slotAt_isSome_iff (consistent : cache.IsConsistent) :
    (cache.slotAt position).isSome ↔ position ∈ cache.positions := by
  rw [MatchCache.slotAt_isSome_iff, consistent.listed]

/-- The slot of a position that is not the oldest stays when room is made. -/
theorem slotAt_withRoom (absent : position ∉ cache.positions) :
    cache.withRoom.slotAt other =
      if displaced cache.bounds.depth cache.positions position = some other then none
      else cache.slotAt other := by
  unfold withRoom dropOldest displaced isFull
  simp only [absent, if_false, beq_iff_eq]
  split
  · cases queue : cache.positions with
    | nil => simp [slotAt]
    | cons oldest later =>
      simp only [slotAt, List.find?_filter, List.head?_cons, Option.some.injEq]
      split
      · rename_i same
        subst same
        simp
      · rename_i apart
        congr 1
        funext slot
        by_cases here : slot.position = other <;> simp [here, Ne.symm apart]
  · simp

/-- The queue of a cache with room for one more position, and that position at its end. -/
theorem positions_withRoom_append (absent : position ∉ cache.positions) :
    cache.withRoom.positions ++ [position] =
      enqueue cache.bounds.depth cache.positions position := by
  unfold withRoom dropOldest enqueue isFull
  simp only [absent, if_false, beq_iff_eq]
  split
  · cases queue : cache.positions <;> simp [queue]
  · rfl

/-- The positions of a consistent cache are a queue. -/
theorem IsConsistent.positions_holding (consistent : cache.IsConsistent) (position : Nat) :
    (cache.holding position).positions =
      enqueue cache.bounds.depth cache.positions position := by
  unfold holding
  simp only [consistent.slotAt_isSome_iff]
  split
  · rename_i member
    exact (if_pos member).symm
  · rename_i absent
    exact positions_withRoom_append absent

/-- A cache that holds a position has its slot, with nothing remembered if there was none. -/
theorem IsConsistent.slotAt_holding_self (consistent : cache.IsConsistent) (position : Nat) :
    (cache.holding position).slotAt position =
      some ((cache.slotAt position).getD ⟨position, []⟩) := by
  unfold holding
  cases held : cache.slotAt position with
  | some slot => simp [held]
  | none =>
    have absent : position ∉ cache.positions := by
      rw [← consistent.slotAt_isSome_iff, held]
      simp
    have nothing : cache.withRoom.slotAt position = none := by
      rw [slotAt_withRoom absent, held, ite_self]
    unfold slotAt at nothing
    simp [slotAt, nothing, List.find?_append]

/-- Every other position has the slot it had, unless it has to make room. -/
theorem IsConsistent.slotAt_holding_of_ne (consistent : cache.IsConsistent)
    (differs : other ≠ position) :
    (cache.holding position).slotAt other =
      if displaced cache.bounds.depth cache.positions position = some other then none
      else cache.slotAt other := by
  unfold holding
  simp only [consistent.slotAt_isSome_iff]
  split
  · rename_i member
    rw [displaced_of_mem member]
    simp
  · rename_i absent
    rw [← slotAt_withRoom absent]
    simp [slotAt, List.find?_append, Ne.symm differs]

/-- Putting an outcome in changes the slot of its position. -/
theorem slotAt_insert (enabled : cache.isDisabled = false) :
    (cache.insert position rule result).slotAt other =
      ((cache.holding position).slotAt other).map fun slot =>
        if other = position then slot.insert cache.bounds.breadth rule result else slot := by
  have positions : ∀ slot : CacheSlot, (if slot.position = position then
      slot.insert cache.bounds.breadth rule result else slot).position = slot.position := by
    intro slot
    split
    · exact CacheSlot.position_insert ..
    · rfl
  unfold insert slotAt
  simp only [enabled, Bool.false_eq_true, if_false, List.find?_map, Function.comp_def, positions]
  cases held : (cache.holding position).slots.find? (·.position == other) with
  | none => rfl
  | some slot =>
    have here : slot.position = other := by simpa using List.find?_some held
    simp [here]

/-- A cache that holds a position has one slot for each of its positions if it had before. -/
theorem nodup_keys_holding (keyed_once : cache.keys.Nodup) (position : Nat) :
    (cache.holding position).keys.Nodup := by
  unfold holding
  split
  · exact keyed_once
  · rename_i unheld
    rw [slotAt_isSome_iff] at unheld
    have fewer : (cache.withRoom.slots.map CacheSlot.position).Sublist cache.keys := by
      unfold withRoom dropOldest keys
      split
      · split
        · exact List.Sublist.refl _
        · exact List.filter_sublist.map _
      · exact List.Sublist.refl _
    simp only [keys, List.map_append, List.map_cons, List.map_nil]
    refine List.nodup_append.mpr ⟨keyed_once.sublist fewer, by simp, ?_⟩
    rintro old stays new added rfl
    exact unheld (List.mem_singleton.mp added ▸ fewer.subset stays)

/-- Putting an outcome in leaves the keys of the cache that holds its position. -/
theorem keys_insert (enabled : cache.isDisabled = false) :
    (cache.insert position rule result).keys = (cache.holding position).keys := by
  unfold insert keys
  simp only [enabled, Bool.false_eq_true, if_false, List.map_map]
  refine List.map_congr_left fun slot _ => ?_
  rw [Function.comp_apply]
  split
  · exact CacheSlot.position_insert ..
  · rfl

/-! ### One operation -/

/-- The slots of a consistent cache are within the bounds, also when one was just added. -/
theorem IsConsistent.within_insert (consistent : cache.IsConsistent)
    (enabled : cache.isDisabled = false)
    (member : slot ∈ (cache.insert position rule result).slots) :
    slot.IsWithin cache.bounds.breadth := by
  have room : 1 ≤ cache.bounds.breadth := by
    simp only [isDisabled, Bool.or_eq_false_iff, beq_eq_false_iff_ne] at enabled
    omega
  unfold insert at member
  simp only [enabled, Bool.false_eq_true, if_false] at member
  obtain ⟨old, stored, rfl⟩ := List.mem_map.mp member
  rcases mem_holding stored with held | rfl
  · have within := consistent.within old held
    split
    · exact CacheSlot.isWithin_insert room within.bounded within.distinct
    · exact within
  · rw [if_pos rfl]
    exact CacheSlot.isWithin_insert room (Nat.zero_le _) List.nodup_nil

/-- Nothing is put into a cache without room. -/
theorem insert_of_isDisabled (disabled : cache.isDisabled = true) :
    cache.insert position rule result = cache := by
  unfold insert
  rw [if_pos disabled]

/-- Putting an outcome in leaves the bounds. -/
theorem bounds_insert : (cache.insert position rule result).bounds = cache.bounds := by
  unfold insert holding withRoom dropOldest
  split
  · rfl
  · split
    · rfl
    · split
      · split <;> rfl
      · rfl

/-- The positions of a consistent cache are a queue that each outcome enters with its position. -/
theorem IsConsistent.positions_insert (consistent : cache.IsConsistent)
    (enabled : cache.isDisabled = false) :
    (cache.insert position rule result).positions =
      enqueue cache.bounds.depth cache.positions position := by
  rw [← consistent.positions_holding]
  unfold insert
  simp only [enabled, Bool.false_eq_true, if_false]

/-- Putting an outcome in leaves a cache consistent. -/
theorem IsConsistent.insert (consistent : cache.IsConsistent) (position : Nat) (rule : RuleId)
    (result : MatchResult) : (cache.insert position rule result).IsConsistent := by
  cases enabled : cache.isDisabled with
  | true =>
    rw [insert_of_isDisabled enabled]
    exact consistent
  | false =>
    have room : 1 ≤ cache.bounds.depth := by
      simp only [isDisabled, Bool.or_eq_false_iff, beq_eq_false_iff_ne] at enabled
      omega
    have queue : (cache.insert position rule result).positions =
        enqueue cache.bounds.depth cache.positions position := consistent.positions_insert enabled
    constructor
    · rw [queue]
      exact nodup_enqueue consistent.queued_once
    · rw [keys_insert enabled]
      exact nodup_keys_holding consistent.keyed_once position
    · intro other
      rw [queue, mem_enqueue consistent.queued_once, ← MatchCache.slotAt_isSome_iff,
        slotAt_insert enabled, Option.isSome_map]
      by_cases same : other = position
      · subst same
        simp [consistent.slotAt_holding_self]
      · rw [consistent.slotAt_holding_of_ne same, ← consistent.slotAt_isSome_iff]
        split <;> simp_all
    · rw [queue, bounds_insert]
      exact length_enqueue_le room consistent.bounded
    · intro slot member
      rw [bounds_insert]
      exact consistent.within_insert enabled member

/-- A consistent cache without room remembers nothing. -/
theorem IsConsistent.find?_of_isDisabled (consistent : cache.IsConsistent)
    (disabled : cache.isDisabled = true) : cache.find? position rule = none := by
  cases held : cache.slotAt position with
  | none => simp [find?, held]
  | some slot =>
    have within := consistent.within slot (of_slotAt held).1
    have member : position ∈ cache.positions := by
      rw [← consistent.slotAt_isSome_iff, held]
      rfl
    have positions := List.length_pos_of_mem member
    have rules := Nat.le_trans within.inhabited within.bounded
    have bounded := consistent.bounded
    simp only [isDisabled, Bool.or_eq_true, beq_iff_eq] at disabled
    omega

/-- The outcome that was put in is found. -/
theorem IsConsistent.find?_insert_self (consistent : cache.IsConsistent)
    (enabled : cache.isDisabled = false) :
    (cache.insert position rule result).find? position rule = some result := by
  unfold find?
  rw [slotAt_insert enabled, consistent.slotAt_holding_self]
  simp [CacheSlot.lookup_insert_self]

/-- Under every other key the outcome is found that was found before, unless it was evicted. -/
theorem IsConsistent.find?_insert_of_ne (consistent : cache.IsConsistent)
    (enabled : cache.isDisabled = false) {asked : RuleId} {outcome : MatchResult}
    (differs : (other, asked) ≠ (position, rule)) :
    (cache.insert position rule result).find? other asked = some outcome ↔
      cache.find? other asked = some outcome ∧ ¬ cache.Evicts position rule other asked := by
  unfold find?
  rw [slotAt_insert enabled]
  by_cases same : other = position
  · subst same
    have apart : asked ≠ rule := fun equal => differs (by rw [equal])
    rw [consistent.slotAt_holding_self]
    cases held : cache.slotAt other with
    | none =>
      have distinct : (⟨other, []⟩ : CacheSlot).rules.Nodup := List.nodup_nil
      simp [CacheSlot.lookup_insert_of_ne distinct apart]
    | some slot =>
      have distinct := (consistent.within slot (of_slotAt held).1).distinct
      have evicts : cache.Evicts other rule other asked ↔
          displaced cache.bounds.breadth slot.rules rule = some asked := by
        constructor
        · rintro (⟨_, leaves⟩ | ⟨found, leaves⟩)
          · have member : other ∈ cache.positions := by
              rw [← consistent.slotAt_isSome_iff, held]
              rfl
            rw [displaced_of_mem member] at leaves
            contradiction
          · rw [held] at found
            exact Option.some.inj found ▸ leaves
        · exact Evicts.rule held
      simp [CacheSlot.lookup_insert_of_ne distinct apart, evicts]
  · have evicts : cache.Evicts position rule other asked ↔
        displaced cache.bounds.depth cache.positions position = some other := by
      constructor
      · rintro (⟨_, leaves⟩ | ⟨_, _⟩)
        · exact leaves
        · exact absurd rfl same
      · exact Evicts.position asked
    simp only [consistent.slotAt_holding_of_ne same, evicts, if_neg same]
    split
    · rename_i leaves
      simp [leaves]
    · rename_i stays
      simp [stays]

/-! ### Any operations -/

/-- Something that is done with a cache. -/
inductive Operation where
  /-- The outcome of a rule at a position is put in. -/
  | insert (position : Nat) (rule : RuleId) (result : MatchResult)
  /-- The outcome of a rule at a position is asked for. -/
  | get (position : Nat) (rule : RuleId)
  /-- Everything is forgotten. -/
  | clear

namespace Operation

/-- The cache after an operation. -/
def apply (cache : MatchCache) : Operation → MatchCache
  | insert position rule result => cache.insert position rule result
  | get position rule => (cache.get position rule).2
  | clear => cache.clear

/-- What a map without bounds holds after an operation: under each key what was put in last, since
everything was last forgotten. -/
def record (map : Nat → RuleId → Option MatchResult) :
    Operation → Nat → RuleId → Option MatchResult
  | insert position rule result => fun other asked =>
    if (other, asked) = (position, rule) then some result else map other asked
  | get _ _ => map
  | clear => fun _ _ => none

end Operation

/-- The outcome that was put in last for a rule at a position, if there is one since everything was
last forgotten. -/
def latest (operations : List Operation) : Nat → RuleId → Option MatchResult :=
  operations.foldl Operation.record fun _ _ => none

/-- A cache after some operations, the first of them on the empty cache. -/
def after (bounds : CacheBounds) (operations : List Operation) : MatchCache :=
  operations.foldl Operation.apply (empty bounds)

/-- A consistent cache in which nothing is found but what a map holds. -/
structure Agrees (cache : MatchCache) (map : Nat → RuleId → Option MatchResult) : Prop where
  /-- The cache is consistent. -/
  consistent : cache.IsConsistent
  /-- What is found is what the map holds. -/
  found : ∀ {position rule result}, cache.find? position rule = some result →
    map position rule = some result

/-- The empty cache agrees with the empty map. -/
theorem agrees_empty (bounds : CacheBounds) : (empty bounds).Agrees fun _ _ => none where
  consistent := by
    constructor
    · exact List.nodup_nil
    · exact List.nodup_nil
    · intro position
      exact Iff.rfl
    · exact Nat.zero_le _
    · intro slot member
      contradiction
  found held := nomatch held

/-- Each operation leaves a cache in agreement with the map that records the same operation. -/
theorem Agrees.apply {map : Nat → RuleId → Option MatchResult} (agrees : cache.Agrees map)
    (operation : Operation) :
    (operation.apply cache).Agrees (operation.record map) := by
  cases operation with
  | insert position rule result =>
    refine ⟨agrees.consistent.insert position rule result, ?_⟩
    intro other asked outcome found
    simp only [Operation.apply, Operation.record] at found ⊢
    cases enabled : cache.isDisabled with
    | true =>
      rw [insert_of_isDisabled enabled, agrees.consistent.find?_of_isDisabled enabled] at found
      contradiction
    | false =>
      split
      · rename_i same
        cases same
        rw [agrees.consistent.find?_insert_self enabled] at found
        exact found
      · rename_i differs
        exact agrees.found ((agrees.consistent.find?_insert_of_ne enabled differs).mp found).1
  | get position rule =>
    have kept : (cache.get position rule).2.IsConsistent := by
      unfold MatchCache.get
      obtain ⟨queued_once, keyed_once, listed, bounded, within⟩ := agrees.consistent
      split <;> exact ⟨queued_once, keyed_once, listed, bounded, within⟩
    refine ⟨kept, ?_⟩
    intro other asked outcome found
    refine agrees.found ?_
    simp only [Operation.apply, MatchCache.get] at found
    split at found <;> exact found
  | clear =>
    have empty := agrees_empty cache.bounds
    obtain ⟨queued_once, keyed_once, listed, bounded, within⟩ := empty.consistent
    exact ⟨⟨queued_once, keyed_once, listed, bounded, within⟩, fun found => empty.found found⟩

/-- After any operations a cache agrees with the map that recorded them. -/
theorem agrees_after (bounds : CacheBounds) (operations : List Operation) :
    (after bounds operations).Agrees (latest operations) := by
  have run : ∀ (cache : MatchCache) (map : Nat → RuleId → Option MatchResult), cache.Agrees map →
      (operations.foldl Operation.apply cache).Agrees (operations.foldl Operation.record map) := by
    induction operations with
    | nil =>
      intro cache map agrees
      exact agrees
    | cons operation later ih =>
      intro cache map agrees
      exact ih _ _ (agrees.apply operation)
  exact run _ _ (agrees_empty bounds)

/-- The bounds of a cache never change. -/
theorem bounds_after (bounds : CacheBounds) (operations : List Operation) :
    (after bounds operations).bounds = bounds := by
  have kept : ∀ cache : MatchCache, ∀ operation : Operation,
      (operation.apply cache).bounds = cache.bounds := by
    intro cache operation
    cases operation with
    | insert position rule result => exact bounds_insert
    | get position rule =>
      simp only [Operation.apply, get]
      split <;> rfl
    | clear => rfl
  have run : ∀ cache : MatchCache,
      (operations.foldl Operation.apply cache).bounds = cache.bounds := by
    induction operations with
    | nil =>
      intro cache
      rfl
    | cons operation later ih =>
      intro cache
      rw [List.foldl_cons, ih, kept]
  exact run _

/-- A cache is a bounded partial map. After any operations its queue and its table hold the same
positions, each once, with no more positions and rules than the bounds allow; what is found under a
key is what was put in last under it since everything was last forgotten; and if there is any room,
what is put in is found at once, its position and its rule come last unless they were held, and
nothing else goes but the first position, or the first rule at that position. -/
theorem isBoundedMap (bounds : CacheBounds) (operations : List Operation) :
    (after bounds operations).bounds = bounds ∧
    (after bounds operations).IsConsistent ∧
    (∀ position rule result, ((after bounds operations).get position rule).1 = some result →
      latest operations position rule = some result) ∧
    ∀ position rule result, 1 ≤ bounds.depth → 1 ≤ bounds.breadth →
      let inserted := (after bounds operations).insert position rule result
      (inserted.get position rule).1 = some result ∧
      inserted.positions = enqueue bounds.depth (after bounds operations).positions position ∧
      (∃ slot, inserted.slotAt position = some slot ∧ slot.rules = enqueue bounds.breadth
        (((after bounds operations).slotAt position).elim [] CacheSlot.rules) rule) ∧
      ∀ other asked outcome, (other, asked) ≠ (position, rule) →
        ((inserted.get other asked).1 = some outcome ↔
          ((after bounds operations).get other asked).1 = some outcome ∧
            ¬ (after bounds operations).Evicts position rule other asked) := by
  have agrees := agrees_after bounds operations
  have kept := bounds_after bounds operations
  refine ⟨kept, agrees.consistent, ?_, ?_⟩
  · intro position rule result found
    rw [fst_get] at found
    exact agrees.found found
  · intro position rule result depth breadth inserted
    have enabled : (after bounds operations).isDisabled = false := by
      simp only [isDisabled, kept, Bool.or_eq_false_iff, beq_eq_false_iff_ne]
      omega
    refine ⟨?_, ?_, ?_, ?_⟩
    · rw [fst_get]
      exact agrees.consistent.find?_insert_self enabled
    · rw [agrees.consistent.positions_insert enabled, kept]
    · rw [slotAt_insert enabled, agrees.consistent.slotAt_holding_self, Option.map_some,
        if_pos rfl]
      refine ⟨_, rfl, ?_⟩
      rw [CacheSlot.rules_insert, kept]
      cases (after bounds operations).slotAt position <;> rfl
    · intro other asked outcome differs
      rw [fst_get, fst_get]
      exact agrees.consistent.find?_insert_of_ne enabled differs

/-- With two positions of one rule each, a third position comes in at the end of the queue and is
found, and only the first one goes. -/
theorem isBoundedMap_third_position :
    let operations := [.insert 4 0 (.failure []), .insert 7 0 (.failure []), .get 4 0,
      .insert 4 0 (.failure [])]
    let inserted := (after ⟨2, 1⟩ operations).insert 9 1 (.failure [])
    (inserted.get 9 1).1 = some (.failure []) ∧ inserted.positions = [7, 9] ∧
      ((inserted.get 7 0).1 = some (.failure []) ↔
        ((after ⟨2, 1⟩ operations).get 7 0).1 = some (.failure []) ∧
          ¬ (after ⟨2, 1⟩ operations).Evicts 9 1 7 0) := by
  intro operations inserted
  obtain ⟨_, _, _, room⟩ := isBoundedMap ⟨2, 1⟩ operations
  obtain ⟨found, queue, _, others⟩ := room 9 1 (.failure []) (by decide) (by decide)
  exact ⟨found, queue, others 7 0 (.failure []) (by decide)⟩

end MatchCache

end Packrat
