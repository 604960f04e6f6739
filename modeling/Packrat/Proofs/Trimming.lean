import Packrat.Proofs.Items
import Packrat.Proofs.Lookahead

/-!
# Trimmed nodes

The node of a rule does not cover what was skipped at the edges of its match. Trimming never cuts
content: every position of the match that no skipped item covers lies inside the node
(`descend_keeps_content`).

It does not always trim all of the skipped edges. The node of a rule that is made of its parts runs
from the first to the last item that is not skipped, and such an item counts even if it took nothing
and left no node. So the node runs from the first to the last item that took something or left a
node exactly if no idle item stands outside (`descend_trims_iff`).
-/

namespace Packrat

variable {P : Type}

/-! ## Nodes of rules -/

/-- A rule that is to leave a node makes one with its token. -/
theorem exists_production_of_shape {rule : Occurrence P} (node : rule.shape = .node) :
    ∃ token, rule.token = some token ∧
      ∀ span, production rule span = .node token rule.annotations span := by
  have structural : ∃ token, rule.token = some token := by
    unfold Occurrence.shape at node
    split at node
    · rename_i token kind
      unfold Occurrence.token Behaviour.token
      rw [kind]
      exact ⟨_, rfl⟩
    · contradiction
    · contradiction
  obtain ⟨token, named⟩ := structural
  refine ⟨token, named, fun span => ?_⟩
  unfold production
  rw [node, named]

/-- A rule that matches in a reachable state, without being recovered from, leaves a node around
what its parts left, over the content that its mark tells. -/
theorem descend_node [Procedures P] {grammar : Grammar P} (free : grammar.isProcedureFree = true)
    {depth : Nat} {id : RuleId} (node : (grammar.rule id).shape = .node)
    (taking : (grammar.rule id).behaviour.lookahead = false) {state : State NodeStack}
    (reachable : Reachable grammar state) (matched : (descend grammar depth id state).1 = .matched)
    (unrecovered : ¬ IsRecovered grammar id state.scanner) :
    ∃ token ended, (grammar.rule id).token = some token ∧
      Trial.repeated grammar (finalVerdict grammar) (grammar.rule id) (.start state.scanner) =
        .matched ended ∧
      (descend grammar depth id state).2.position = ended.scanner.position ∧
      (descend grammar depth id state).2.builder = state.builder.adding
        [.mk token (ended.mark.content ended.scanner.position) (grammar.rule id).annotations
          ended.nodes] := by
  obtain ⟨token, named, made⟩ := exists_production_of_shape node
  have obeys := descend_obeys NodeStack.ledger free depth id state
    (reachable.backs NodeStack.ledger free)
  generalize descend grammar depth id state = result at obeys matched
  cases obeys with
  | limited limit => contradiction
  | diverged unknown => contradiction
  | answered verdict known answers =>
    have concluded := conclude_of_finalVerdict known
    cases verdict with
    | failure attempts =>
      have pinned : (grammar.rule id).annotations.pinned = true := by
        have outcome := answers.outcome.symm.trans matched
        unfold MatchResult.reply at outcome
        simpa using outcome
      exact absurd (isRecovered_of_failure known pinned) unrecovered
    | success remembered =>
      have inside := (finalVerdict_forward grammar id state.scanner remembered known).2
      generalize repeated : Trial.repeated grammar (finalVerdict grammar) (grammar.rule id)
        (.start state.scanner) = trial at concluded
      cases trial with
      | diverged => contradiction
      | failed journal => simp [Trial.conclude] at concluded
      | matched ended =>
        obtain rfl := MatchResult.success.inj (Option.some.inj concluded)
        simp only [Trial.remembered, taking, Bool.false_eq_true, if_false] at inside
        refine ⟨token, ended, named, rfl, ?_, ?_⟩
        · have scanner := congrArg Scanner.position answers.scanner
          simp only [MatchResult.reply, Trial.remembered, taking, Bool.false_eq_true, if_false]
            at scanner
          exact scanner.trans (Scanner.position_moveTo inside)
        · have builder : result.2.builder = state.builder.adding _ := answers.builder
          simp only [MatchResult.reply, Trial.remembered, taking, Bool.false_eq_true, if_false,
            made, Production.leaves] at builder
          exact builder

/-! ## Content is kept -/

/-- The content of a match that ends at a position, with a mark as it was at the start. -/
theorem Mark.content_start {origin stop : Nat} (forward : origin ≤ stop) :
    (Mark.start origin).content stop = ⟨origin, stop⟩ := by
  simp only [Mark.start, Mark.content, Nat.max_eq_left forward]

/-- Letters with blanks around them that are skipped: one between two blanks, and one before a blank
and another letter, which may be missing. -/
def Grammar.padded : Grammar where
  rules :=
    #[⟨none, "\"a\"", .scanning, .empty, .own (.terminal (.literal "a"))⟩,
      ⟨none, "-\" \"", ⟨.skipping, .one, false, false⟩, .empty, .own (.terminal (.literal " "))⟩,
      ⟨none, "\"x\"?", ⟨.scanning, .optional, false, false⟩, .empty,
        .own (.terminal (.literal "x"))⟩,
      ⟨none, "-\" \" \"a\" -\" \"", ⟨.structural (.named "p"), .one, false, false⟩, .empty,
        .own (.sequence [1, 0, 1])⟩,
      ⟨none, "\"a\" -\" \" \"x\"?", ⟨.structural (.named "r"), .one, false, false⟩, .empty,
        .own (.sequence [0, 1, 2])⟩]
  names := []
  root := 4

variable [Procedures P]

/-- Whether an item is not skipped and took something or left a node. -/
def Item.isFirm (grammar : Grammar P) (item : Item) : Bool :=
  item.isSolid && (decide (item.start < item.stop) || !(item.nodes grammar).isEmpty)

/-- Whether an item is not skipped, but took nothing and left no node. -/
def Item.isIdle (grammar : Grammar P) (item : Item) : Bool :=
  item.isSolid && !item.isFirm grammar

/-- An item that took something or left a node is not skipped. -/
theorem Item.isSolid_of_isFirm {grammar : Grammar P} {item : Item}
    (firm : item.isFirm grammar = true) : item.isSolid = true := by
  unfold isFirm at firm
  exact ((Bool.and_eq_true _ _).mp firm).1

/-- An item that is not skipped is idle, or it took something or left a node. -/
theorem Item.isIdle_or_isFirm {grammar : Grammar P} {item : Item} (solid : item.isSolid = true) :
    item.isIdle grammar = true ∨ item.isFirm grammar = true := by
  unfold isIdle
  cases item.isFirm grammar <;> simp [solid]

/-- Some of the items of a row reach as far as others among them, just if none of them stands
outside the hull of the others. -/
theorem InRow.hull_eq_iff {first last : Nat} {items wider fewer : List Item}
    (row : InRow first items last) (among : wider.Sublist items) (within : fewer.Sublist wider) :
    hull last wider = hull last fewer ↔
      ∀ item ∈ wider, (hull last fewer).start ≤ item.start ∧
        item.stop ≤ (hull last fewer).stop := by
  by_cases none : wider = []
  · subst none
    obtain rfl := List.sublist_nil.mp within
    simp
  have hulled := row.isHull among none last
  constructor
  · intro same item member
    rw [← same]
    exact ⟨hulled.starts item member, hulled.stops item member⟩
  · intro inside
    obtain ⟨head, starting, starts⟩ := hulled.first
    obtain ⟨tail, ending, stops⟩ := hulled.last
    have headInside := inside head starting
    have tailInside := inside tail ending
    have around : (hull last wider).start ≤ (hull last fewer).start ∧
        (hull last fewer).stop ≤ (hull last wider).stop := by
      by_cases empty : fewer = []
      · have headBounds := row.bounds (among.subset starting)
        have tailBounds := row.bounds (among.subset ending)
        have pointStarts : (hull last fewer).start = last := by rw [empty]; rfl
        have pointStops : (hull last fewer).stop = last := by rw [empty]; rfl
        omega
      · have inner := row.isHull (within.trans among) empty last
        obtain ⟨one, oneListed, oneStarts⟩ := inner.first
        obtain ⟨other, otherListed, otherStops⟩ := inner.last
        have before := hulled.starts one (within.subset oneListed)
        have behind := hulled.stops other (within.subset otherListed)
        omega
    have start : (hull last wider).start = (hull last fewer).start := by omega
    have stop : (hull last wider).stop = (hull last fewer).stop := by omega
    calc
      hull last wider = ⟨(hull last wider).start, (hull last wider).stop⟩ := rfl
      _ = ⟨(hull last fewer).start, (hull last fewer).stop⟩ := by rw [start, stop]
      _ = hull last fewer := rfl

/-- A rule of a procedure-free grammar that is not negated, matches through other rules in a
reachable state and leaves a node is made of items in a row, which left the nodes inside its node.
The node runs from the first to the last item that is not skipped, and is empty at the end of the
match if there is none. It runs from the first to the last of those items that took something or
left a node, and is empty at the end of the match if there is none, exactly if no idle item stands
outside that stretch. -/
theorem descend_trims_iff (grammar : Grammar P) (free : grammar.isProcedureFree = true)
    (depth : Nat) (id : RuleId) (node : (grammar.rule id).shape = .node)
    (taking : (grammar.rule id).behaviour.lookahead = false)
    (made : grammar.isMadeOfParts (grammar.rule id) = true) (state : State NodeStack)
    (reachable : Reachable grammar state) (matched : (descend grammar depth id state).1 = .matched)
    (unrecovered : ¬ IsRecovered grammar id state.scanner) :
    let stop := (descend grammar depth id state).2.position
    ∃ token span items,
      (descend grammar depth id state).2.builder = state.builder.adding
        [.mk token span (grammar.rule id).annotations (items.flatMap (Item.nodes grammar))] ∧
      RepeatItems grammar (grammar.rule id) 0 state.scanner items ∧
      InRow state.position items stop ∧
      span = hull stop (items.filter Item.isSolid) ∧
      (span = hull stop (items.filter (Item.isFirm grammar)) ↔
        ∀ item ∈ items, item.isIdle grammar = true →
          (hull stop (items.filter (Item.isFirm grammar))).start ≤ item.start ∧
            item.stop ≤ (hull stop (items.filter (Item.isFirm grammar))).stop) := by
  intro stop
  obtain ⟨token, ended, _, repeated, stops, builder⟩ :=
    descend_node free node taking reachable matched unrecovered
  obtain ⟨items, inside, row, nodes, noted⟩ :=
    Trial.repeated_items (finalVerdict_itemizes free) made repeated
  rw [← stops] at row builder
  rw [nodes, noted, row.content] at builder
  refine ⟨token, _, items, builder, inside, row, rfl, ?_⟩
  have fewer : (items.filter (Item.isFirm grammar)).Sublist (items.filter Item.isSolid) := by
    have same : items.filter (Item.isFirm grammar) =
        (items.filter Item.isSolid).filter (Item.isFirm grammar) := by
      rw [List.filter_filter]
      refine List.filter_congr fun item _ => ?_
      cases firm : item.isFirm grammar with
      | true => simp [Item.isSolid_of_isFirm firm]
      | false => simp
    rw [same]
    exact List.filter_sublist
  rw [row.hull_eq_iff List.filter_sublist fewer]
  constructor
  · intro within item member idle
    have solid : item.isSolid = true := ((Bool.and_eq_true _ _).mp idle).1
    exact within item (List.mem_filter.mpr ⟨member, solid⟩)
  · intro within item kept
    obtain ⟨member, solid⟩ := List.mem_filter.mp kept
    have known : item.isIdle grammar = true ∨ item.isFirm grammar = true :=
      Item.isIdle_or_isFirm solid
    rcases known with idle | firm
    · exact within item member idle
    · have listed : item ∈ items.filter (Item.isFirm grammar) :=
        List.mem_filter.mpr ⟨member, firm⟩
      have hulled := row.isHull List.filter_sublist (List.ne_nil_of_mem listed) stop
      exact ⟨hulled.starts item listed, hulled.stops item listed⟩

/-- A letter between two blanks leaves a node that is trimmed on both sides. -/
theorem descend_trims_iff_padded :
    let state : State NodeStack :=
      .initial ⟨[' ', 'a', ' ']⟩ (Config.default.withCache 2 2) .initial
    let stop := (descend .padded 2 3 state).2.position
    (descend .padded 2 3 state).1 = .matched ∧
      (descend .padded 2 3 state).2.builder.top.nodes.map Node.span = [⟨1, 2⟩] ∧
      ∃ token span items,
        (descend .padded 2 3 state).2.builder = state.builder.adding
          [.mk token span .empty (items.flatMap (Item.nodes .padded))] ∧
        RepeatItems .padded (Grammar.padded.rule 3) 0 state.scanner items ∧
        InRow 0 items stop ∧
        span = hull stop (items.filter Item.isSolid) ∧
        (span = hull stop (items.filter (Item.isFirm .padded)) ↔
          ∀ item ∈ items, item.isIdle .padded = true →
            (hull stop (items.filter (Item.isFirm .padded))).start ≤ item.start ∧
              item.stop ≤ (hull stop (items.filter (Item.isFirm .padded))).stop) := by
  intro state stop
  have matched : (descend .padded 2 3 state).1 = .matched := by decide +kernel
  have unpinned : (Grammar.padded.rule 3).annotations.pinned = false := rfl
  exact ⟨matched, by decide +kernel, descend_trims_iff .padded (by decide +kernel) 2 3 rfl rfl
    (by decide +kernel) state (.initial _ _ _) matched
    fun recovered => Bool.noConfusion (unpinned.symm.trans recovered.pinned)⟩

/-- A letter before a blank leaves a node that covers the blank, if a second letter is asked for
that is missing: the items are the letter, the blank, which is skipped, and the missing letter,
which took nothing and left no node. -/
theorem matchRule_keeps_skipped_blank :
    let state : State NodeStack := .initial ⟨['a', ' ']⟩ .default .initial
    (matchRule .padded 4 state).1 = .matched ∧ (matchRule .padded 4 state).2.position = 2 ∧
      (matchRule .padded 4 state).2.builder.top.nodes.map Node.span = [⟨0, 2⟩] ∧
      ∃ items, RepeatItems .padded (Grammar.padded.rule 4) 0 state.scanner items ∧
        InRow 0 items 2 ∧ hull 2 (items.filter (Item.isFirm .padded)) = ⟨0, 1⟩ := by
  intro state
  let start : Scanner := state.scanner
  let middle : Scanner := start.moveTo 1
  let final : Scanner := start.moveTo 2
  have parses := finalVerdict_parses .padded
  have letter : RepeatParse .padded (Grammar.padded.rule 0) 0 start (some middle) :=
    Trial.repeated_parses parses rfl
  have blank : RepeatParse .padded (Grammar.padded.rule 1) 0 middle (some final) :=
    Trial.repeated_parses parses rfl
  have missing : RepeatParse .padded (Grammar.padded.rule 2) 0 final (some final) :=
    Trial.repeated_parses parses rfl
  have once : OnceParse .padded (Grammar.padded.rule 4) start (some final) :=
    @Trial.once_parses _ _ _ (.start start) _ parses _ rfl
  have room : HasRoom (Grammar.padded.rule 4) 0 := by
    intro bound bounded
    cases bounded
    exact Nat.one_pos
  have all : AllItems .padded [0, 1, 2] start
      [⟨0, start, 1, false⟩, ⟨1, middle, 2, true⟩, ⟨2, final, 2, false⟩] :=
    .cons (.matched letter) (.whole rfl rfl letter)
      (.cons (.matched blank) (.whole rfl rfl blank)
        (.cons (.matched missing) (.whole rfl rfl missing) .nil))
  have row : InRow 0 [⟨0, start, 1, false⟩, ⟨1, middle, 2, true⟩, ⟨2, final, 2, false⟩] 2 :=
    (InRow.single ⟨0, start, 1, false⟩ (by decide)).append
      ((InRow.single ⟨1, middle, 2, true⟩ (by decide)).append
        (InRow.single ⟨2, final, 2, false⟩ (by decide)))
  exact ⟨by decide +kernel, by decide +kernel, by decide +kernel, _,
    .further room once (by decide) (.sequence all) (.full rfl), row, by decide +kernel⟩

end Packrat
