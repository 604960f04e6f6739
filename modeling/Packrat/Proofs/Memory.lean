import Packrat.Engine.State

/-!
# What a cache remembers

The cache of a state remembers slots of entries. A lookup finds only what some slot lists, and
remembering a match adds that match and nothing else: making room only takes entries away. Neither
touches the rest of the state (`State.Alike`).
-/

namespace Packrat

/-- Entries with the outcome of a rule put in place list that outcome and what they listed before.
-/
theorem CacheSlot.mem_replace {rule : RuleId} {result : MatchResult}
    {entries : List (RuleId × MatchResult)} {entry : RuleId × MatchResult}
    (member : entry ∈ replace rule result entries) : entry = (rule, result) ∨ entry ∈ entries := by
  obtain ⟨old, listed, same⟩ := List.mem_map.mp member
  split at same
  · exact .inl same.symm
  · exact .inr (same ▸ listed)

/-- A slot lists the outcome put into it and what it listed before. -/
theorem CacheSlot.mem_insert {slot : CacheSlot} {breadth : Nat} {rule : RuleId}
    {result : MatchResult} {entry : RuleId × MatchResult}
    (member : entry ∈ (slot.insert breadth rule result).entries) :
    entry = (rule, result) ∨ entry ∈ slot.entries := by
  unfold insert at member
  split at member
  · exact mem_replace member
  · split at member
    · rcases List.mem_append.mp member with old | new
      · exact .inr (List.mem_of_mem_drop old)
      · exact .inl (List.mem_singleton.mp new)
    · rcases List.mem_append.mp member with old | new
      · exact .inr old
      · exact .inl (List.mem_singleton.mp new)

/-- Putting an outcome into a slot leaves the slot at its position. -/
theorem CacheSlot.position_insert (slot : CacheSlot) (breadth : Nat) (rule : RuleId)
    (result : MatchResult) : (slot.insert breadth rule result).position = slot.position := by
  unfold insert
  split
  · rfl
  · split <;> rfl

/-- Making room for a position only takes slots away. -/
theorem MatchCache.mem_of_mem_withRoom {cache : MatchCache} {slot : CacheSlot}
    (member : slot ∈ cache.withRoom.slots) : slot ∈ cache.slots := by
  unfold withRoom dropOldest at member
  split at member
  · split at member
    · exact member
    · exact (List.mem_filter.mp member).1
  · exact member

/-- A slot for a position is an old one, or a new one with nothing remembered. -/
theorem MatchCache.mem_holding {cache : MatchCache} {position : Nat} {slot : CacheSlot}
    (member : slot ∈ (cache.holding position).slots) :
    slot ∈ cache.slots ∨ slot = ⟨position, []⟩ := by
  unfold holding at member
  split at member
  · exact .inl member
  · rcases List.mem_append.mp member with old | new
    · exact .inl (mem_of_mem_withRoom old)
    · exact .inr (List.mem_singleton.mp new)

/-- A cache lists, at every position, the outcome put into it there and what it listed before. -/
theorem MatchCache.mem_insert {cache : MatchCache} {position : Nat} {rule : RuleId}
    {result : MatchResult} {slot : CacheSlot} {entry : RuleId × MatchResult}
    (member : slot ∈ (cache.insert position rule result).slots) (listed : entry ∈ slot.entries) :
    (slot.position = position ∧ entry = (rule, result)) ∨
      ∃ old ∈ cache.slots, old.position = slot.position ∧ entry ∈ old.entries := by
  have known : ∀ old ∈ (cache.holding position).slots, entry ∈ old.entries → old ∈ cache.slots := by
    intro old stored inside
    refine (mem_holding stored).resolve_right ?_
    rintro rfl
    contradiction
  unfold insert at member
  split at member
  · exact .inr ⟨slot, member, rfl, listed⟩
  · obtain ⟨old, stored, same⟩ := List.mem_map.mp member
    split at same
    · rename_i here
      subst same
      rw [CacheSlot.position_insert]
      rcases CacheSlot.mem_insert listed with new | inside
      · exact .inl ⟨here, new⟩
      · exact .inr ⟨old, known old stored inside, rfl, inside⟩
    · subst same
      exact .inr ⟨old, known old stored listed, rfl, listed⟩

variable {β : Type}

namespace State

/-- The two states differ at most in the calls counted, in the cache, and in what matching tells
about itself. -/
structure Alike (left right : State β) : Prop where
  /-- The cursor is the same. -/
  scanner : right.scanner = left.scanner
  /-- The builder is the same. -/
  builder : right.builder = left.builder
  /-- The diagnostics are the same. -/
  errors : right.errors = left.errors
  /-- The trimming mark is the same. -/
  mark : right.mark = left.mark
  /-- The attempts are the same. -/
  attempts : right.attempts = left.attempts
  /-- The journal is the same. -/
  journal : right.journal = left.journal
  /-- As many negations are open. -/
  negations : right.negations = left.negations
  /-- The call limit is the same. -/
  callLimit : right.callLimit = left.callLimit

/-- What the cache of a state remembers. -/
def memory (state : State β) : List CacheSlot :=
  state.cache.toList.flatMap MatchCache.slots

/-- Nothing is remembered at the start of a source. -/
theorem memory_initial (source : Source) (config : Config) (builder : β) :
    (initial source config builder).memory = [] := by
  unfold memory initial
  cases config.cache <;> rfl

/-- Remembering a match changes nothing but the cache and the remarks. -/
theorem remember_alike (state : State β) (id : RuleId) (origin : Nat) (result : MatchResult) :
    state.Alike (state.remember id origin result) := by
  unfold remember
  split <;> exact ⟨rfl, rfl, rfl, rfl, rfl, rfl, rfl, rfl⟩

/-- Looking a match up changes nothing but the counts of the cache. -/
theorem lookup_alike (state : State β) (id : RuleId) :
    state.Alike (state.lookup id).2 ∧ (state.lookup id).2.memory = state.memory := by
  unfold lookup
  split
  · exact ⟨⟨rfl, rfl, rfl, rfl, rfl, rfl, rfl, rfl⟩, rfl⟩
  · rename_i cache cached
    refine ⟨⟨rfl, rfl, rfl, rfl, rfl, rfl, rfl, rfl⟩, ?_⟩
    have slots : (cache.get state.position id).2.slots = cache.slots := by
      unfold MatchCache.get
      split <;> rfl
    simp only [memory, cached, Option.toList_some, List.flatMap_singleton, slots]

/-- What a lookup finds is remembered for the rule at the cursor. -/
theorem mem_memory_of_lookup {state : State β} {id : RuleId} {result : MatchResult}
    (found : (state.lookup id).1 = some result) :
    ∃ slot ∈ state.memory, slot.position = state.position ∧ (id, result) ∈ slot.entries := by
  unfold lookup at found
  split at found
  · contradiction
  · rename_i cache cached
    simp only [MatchCache.get] at found
    split at found
    · rename_i answer known
      obtain ⟨slot, stored, listed⟩ := Option.bind_eq_some_iff.mp known
      have standing : cache.slots.find? (·.position == state.position) = some slot := stored
      obtain rfl := Option.some.inj found
      obtain ⟨earlier, later, entries, _⟩ := List.lookup_eq_some_iff.mp listed
      have position := List.find?_some standing
      refine ⟨slot, ?_, eq_of_beq position, by simp [entries]⟩
      simp only [memory, cached, Option.toList_some, List.flatMap_singleton]
      exact List.mem_of_find?_eq_some standing
    · contradiction

/-- Remembering a match adds that match to what is remembered, and nothing else. -/
theorem mem_memory_remember {state : State β} {id : RuleId} {origin : Nat} {result : MatchResult}
    {slot : CacheSlot} {entry : RuleId × MatchResult}
    (member : slot ∈ (state.remember id origin result).memory) (listed : entry ∈ slot.entries) :
    (slot.position = origin ∧ entry = (id, result)) ∨
      ∃ old ∈ state.memory, old.position = slot.position ∧ entry ∈ old.entries := by
  unfold remember at member
  split at member
  · exact .inr ⟨slot, member, rfl, listed⟩
  · rename_i cache cached
    simp only [memory, Option.toList_some, List.flatMap_singleton] at member
    simp only [memory, cached, Option.toList_some, List.flatMap_singleton]
    exact MatchCache.mem_insert member listed

end State

end Packrat
