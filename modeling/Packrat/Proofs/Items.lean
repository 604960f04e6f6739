import Packrat.Proofs.Framing
import Packrat.Proofs.Recovery

/-!
# What a match is made of

A rule that is not negated and matches through other rules takes nothing itself: its match is made
of the matches of its parts, one after the other. Parts that hand on the skipped edges of their own
parts are looked through, so what is left is a row of items (`RepeatItems`), each of them skipped or
not, and each starting where the one before it ends (`InRow`).

The trimming mark of the rule is what noting the items one by one makes of it (`Mark.note`), and the
content of the match runs from the first to the last item that is not skipped (`InRow.content`). The
nodes inside it are those that the items leave, one after the other (`Item.nodes`).
-/

namespace Packrat

variable {P : Type}

/-- A part of a match that is not looked through. -/
structure Item where
  /-- The rule that matched. -/
  id : RuleId
  /-- The cursor it matched at. -/
  here : Scanner
  /-- Where the match ends. -/
  stop : Nat
  /-- Whether the match is skipped. -/
  skipped : Bool

/-- Where an item starts. -/
def Item.start (item : Item) : Nat :=
  item.here.position

/-- Whether an item is not skipped. -/
def Item.isSolid (item : Item) : Bool :=
  !item.skipped

/-- The stretch from the first to the last of some items, or the empty one at a position if there
are none. -/
def hull (stop : Nat) : List Item → Span
  | [] => .point stop
  | first :: later => ⟨first.start, (later.getLastD first).stop⟩

/-! ## Items in a row -/

/-- Items that start one where the other ends, from one position to another. -/
inductive InRow : Nat → List Item → Nat → Prop
  /-- No items lead nowhere. -/
  | nil {position : Nat} : InRow position [] position
  /-- The others start where the first ends. -/
  | cons {item : Item} {later : List Item} {last : Nat} (forward : item.start ≤ item.stop)
      (row : InRow item.stop later last) : InRow item.start (item :: later) last

namespace InRow

variable {first middle last : Nat} {items later : List Item} {item : Item}

/-- A single item is in a row. -/
theorem single (item : Item) (forward : item.start ≤ item.stop) :
    InRow item.start [item] item.stop :=
  .cons forward .nil

/-- Rows one after the other are one row. -/
theorem append (row : InRow first items middle) (rest : InRow middle later last) :
    InRow first (items ++ later) last := by
  induction row with
  | nil => exact rest
  | cons forward _ ih => exact .cons forward (ih rest)

/-- A row leads forward. -/
theorem le (row : InRow first items last) : first ≤ last := by
  induction row with
  | nil => exact Nat.le_refl _
  | cons forward _ ih => exact Nat.le_trans forward ih

/-- The items of a row lie between its ends. -/
theorem bounds (row : InRow first items last) (member : item ∈ items) :
    first ≤ item.start ∧ item.start ≤ item.stop ∧ item.stop ≤ last := by
  induction row with
  | nil => contradiction
  | @cons head tail last forward row ih =>
    rcases List.mem_cons.mp member with rfl | rest
    · exact ⟨Nat.le_refl _, forward, row.le⟩
    · have inner := ih rest
      exact ⟨Nat.le_trans forward inner.1, inner.2⟩

/-- Every position between the ends of a row lies in one of its items. -/
theorem covers (row : InRow first items last) {position : Nat} (behind : first ≤ position)
    (before : position < last) :
    ∃ item ∈ items, item.start ≤ position ∧ position < item.stop := by
  induction row with
  | nil => omega
  | @cons head tail last forward row ih =>
    by_cases inside : position < head.stop
    · exact ⟨head, List.mem_cons_self, behind, inside⟩
    · obtain ⟨item, member, within⟩ := ih (Nat.le_of_not_lt inside) before
      exact ⟨item, List.mem_cons_of_mem _ member, within⟩

/-- Of two items of a row, one ends before the other starts. -/
theorem pairwise (row : InRow first items last) :
    items.Pairwise fun earlier later => earlier.stop ≤ later.start := by
  induction row with
  | nil => exact .nil
  | cons _ row ih =>
    refine .cons (fun other member => ?_) ih
    exact (row.bounds member).1

end InRow

/-- The last of several items that are ordered is one of them, and none ends behind it. -/
theorem getLastD_bounds {head : Item} {tail : List Item}
    (forward : ∀ item ∈ head :: tail, item.start ≤ item.stop)
    (ordered : (head :: tail).Pairwise fun earlier later => earlier.stop ≤ later.start) :
    tail.getLastD head ∈ head :: tail ∧
      ∀ item ∈ head :: tail, item.stop ≤ (tail.getLastD head).stop := by
  induction tail generalizing head with
  | nil => simp
  | cons next rest ih =>
    have inner := ih (fun item member => forward item (List.mem_cons_of_mem _ member))
      (List.pairwise_cons.mp ordered).2
    rw [List.getLastD_cons]
    refine ⟨List.mem_cons_of_mem _ inner.1, fun item member => ?_⟩
    rcases List.mem_cons.mp member with rfl | later
    · have before := (List.pairwise_cons.mp ordered).1 next List.mem_cons_self
      have proper := forward next (List.mem_cons_of_mem _ List.mem_cons_self)
      have onward := inner.2 next List.mem_cons_self
      omega
    · exact inner.2 item later

/-- The hull of some items of a row holds them, and starts and ends with one of them. -/
structure IsHull (items : List Item) (span : Span) : Prop where
  /-- Every item starts at the start of the hull or behind it. -/
  starts : ∀ item ∈ items, span.start ≤ item.start
  /-- Every item ends at the end of the hull or before it. -/
  stops : ∀ item ∈ items, item.stop ≤ span.stop
  /-- Some item starts where the hull does. -/
  first : ∃ item ∈ items, item.start = span.start
  /-- Some item ends where the hull does. -/
  last : ∃ item ∈ items, item.stop = span.stop

/-- The hull of some items of a row holds them, and starts and ends with one of them. -/
theorem InRow.isHull {first last : Nat} {items kept : List Item} (row : InRow first items last)
    (among : kept.Sublist items) (nonempty : kept ≠ []) (stop : Nat) :
    IsHull kept (hull stop kept) := by
  cases kept with
  | nil => contradiction
  | cons head tail =>
    have ordered := row.pairwise.sublist among
    have forward : ∀ item ∈ head :: tail, item.start ≤ item.stop :=
      fun item member => (row.bounds (among.subset member)).2.1
    obtain ⟨final, ends⟩ := getLastD_bounds forward ordered
    refine ⟨fun item member => ?_, ends, ⟨head, List.mem_cons_self, rfl⟩, ⟨_, final, rfl⟩⟩
    rcases List.mem_cons.mp member with rfl | later
    · exact Nat.le_refl _
    · exact Nat.le_trans (forward head List.mem_cons_self)
        ((List.pairwise_cons.mp ordered).1 item later)

/-! ## Noting items -/

/-- The mark after an item. -/
def Mark.note (mark : Mark) (item : Item) : Mark :=
  if item.skipped then mark.skipped item.start item.stop else mark.consumed

namespace InRow

variable {first last : Nat} {items : List Item} {mark : Mark}

/-- Noting the items of a row changes a mark as the cursor goes. -/
theorem moves (row : InRow first items last) :
    Mark.Moves first last fun mark => items.foldl Mark.note mark := by
  induction row with
  | nil => exact .stay
  | @cons head tail last forward _ ih =>
    have noted : Mark.Moves head.start head.stop (·.note head) := by
      unfold Mark.note
      cases head.skipped with
      | true => exact .skipped forward
      | false => exact .consumed forward
    exact noted.andThen ih

/-- Noting the items of a row is absorbing the content that they come to on their own. -/
theorem foldl_note_eq_absorb (row : InRow first items last) (lead : mark.lead ≤ first) :
    items.foldl Mark.note mark =
      mark.absorb first last ((items.foldl Mark.note (.start first)).summary last) :=
  ((Mark.Joins.start lead).moves row.moves).joined

/-- Once the content has started, it starts where it did, and ends with the last item that is not
skipped, or where it did. -/
theorem foldl_note_of_anchored (row : InRow first items last) (mark : Mark)
    (anchored : mark.anchored = true) :
    (items.foldl Mark.note mark).lead = mark.lead ∧
      (items.foldl Mark.note mark).margin last =
        ((items.filter Item.isSolid).getLast?.map Item.stop).getD (mark.margin first) := by
  induction row generalizing mark with
  | nil => exact ⟨rfl, rfl⟩
  | @cons head tail last forward row ih =>
    rw [List.foldl_cons]
    cases skipped : head.skipped with
    | true =>
      have solid : ¬ head.isSolid = true := by simp [Item.isSolid, skipped]
      have noted : mark.note head = mark.skipped head.start head.stop := by
        simp [Mark.note, skipped]
      rw [List.filter_cons_of_neg solid, noted]
      by_cases empty : head.start = head.stop
      · rw [empty, Mark.skipped_self]
        exact ih mark anchored
      · rw [Mark.skipped_trailing empty (by simp [anchored])]
        obtain ⟨lead, margin⟩ :=
          ih { mark with trail := some ⟨mark.margin head.start, head.stop⟩ } anchored
        refine ⟨lead, margin.trans ?_⟩
        simp [Mark.margin]
    | false =>
      have solid : head.isSolid = true := by simp [Item.isSolid, skipped]
      have noted : mark.note head = mark.consumed := by simp [Mark.note, skipped]
      rw [List.filter_cons_of_pos solid, noted]
      obtain ⟨lead, margin⟩ := ih mark.consumed rfl
      refine ⟨lead, margin.trans ?_⟩
      rw [List.getLast?_cons]
      cases (tail.filter Item.isSolid).getLast? <;> rfl

/-- The content of a match that is made of a row of items runs from the first to the last of those
that are not skipped; if there are none, it is empty at the end. -/
theorem content (row : InRow first items last) :
    (items.foldl Mark.note (.start first)).content last =
      hull last (items.filter Item.isSolid) := by
  induction row with
  | nil => simp [Mark.start, Mark.content, hull, Span.point]
  | @cons head tail last forward row ih =>
    rw [List.foldl_cons]
    cases skipped : head.skipped with
    | true =>
      have solid : ¬ head.isSolid = true := by simp [Item.isSolid, skipped]
      have noted : (Mark.start head.start).note head = .start head.stop := by
        simp only [Mark.note, skipped, if_true]
        exact Mark.skipped_leading rfl rfl head.stop
      rw [List.filter_cons_of_neg solid, noted]
      exact ih
    | false =>
      have solid : head.isSolid = true := by simp [Item.isSolid, skipped]
      have noted : (Mark.start head.start).note head = ⟨head.start, none, true⟩ := by
        simp [Mark.note, skipped, Mark.start, Mark.consumed]
      obtain ⟨lead, margin⟩ := row.foldl_note_of_anchored ⟨head.start, none, true⟩ rfl
      have ends : (tail.foldl Mark.note ⟨head.start, none, true⟩).margin last =
          ((tail.filter Item.isSolid).getLastD head).stop := by
        rw [margin, List.getLastD_eq_getLast?]
        cases (tail.filter Item.isSolid).getLast? <;> rfl
      have whole : InRow head.start (head :: tail) last := .cons forward row
      have listed : head ∈ (head :: tail).filter Item.isSolid :=
        List.mem_filter.mpr ⟨List.mem_cons_self, solid⟩
      have hulled := whole.isHull List.filter_sublist (List.ne_nil_of_mem listed) last
      have beyond := hulled.stops head listed
      rw [List.filter_cons_of_pos solid, hull] at beyond ⊢
      rw [noted, Mark.content_eq, lead, ends, Nat.max_eq_left (Nat.le_trans forward beyond)]

end InRow

/-! ## The items of a match -/

/-- Whether a match of an occurrence is made of the matches of its parts and nothing else. -/
def Grammar.isMadeOfParts (grammar : Grammar P) (rule : Occurrence P) : Bool :=
  !rule.behaviour.negate && throughRules (grammar.testOf rule)

/-- An occurrence that hands on the skipped edges of its parts is made of them. -/
theorem Grammar.isMadeOfParts_of_isTransparent {grammar : Grammar P} {rule : Occurrence P}
    (transparent : grammar.isTransparent rule = true) : grammar.isMadeOfParts rule = true := by
  unfold isTransparent at transparent
  unfold isMadeOfParts
  simp only [Bool.and_eq_true] at transparent ⊢
  exact ⟨transparent.1.2, transparent.2⟩

mutual
/-- The items that a part comes to that matches at a cursor. -/
inductive PartItems (grammar : Grammar P) : RuleId → Scanner → List Item → Prop
  /-- A part that looks ahead comes to none. -/
  | ahead {id : RuleId} {here stop : Scanner}
      (matched : RepeatParse grammar (grammar.rule id) 0 here (some stop))
      (lookahead : (grammar.rule id).behaviour.lookahead = true) : PartItems grammar id here []
  /-- A part that is recovered from is an item, which is not skipped. -/
  | recovered {id : RuleId} {here : Scanner} (recovered : IsRecovered grammar id here) :
      PartItems grammar id here [⟨id, here, here.position, false⟩]
  /-- A part that hands on the skipped edges of its own parts is looked through. -/
  | through {id : RuleId} {here : Scanner} {items : List Item}
      (taking : (grammar.rule id).behaviour.lookahead = false)
      (transparent : grammar.isTransparent (grammar.rule id) = true)
      (inside : RepeatItems grammar (grammar.rule id) 0 here items) :
      PartItems grammar id here items
  /-- Every other part is an item, which is skipped if the part is. -/
  | whole {id : RuleId} {here stop : Scanner}
      (taking : (grammar.rule id).behaviour.lookahead = false)
      (closed : grammar.isTransparent (grammar.rule id) = false)
      (matched : RepeatParse grammar (grammar.rule id) 0 here (some stop)) :
      PartItems grammar id here
        [⟨id, here, stop.position, (grammar.rule id).behaviour.isSkipping⟩]

/-- The items that repetition comes to at a cursor after a number of successes. -/
inductive RepeatItems (grammar : Grammar P) : Occurrence P → Nat → Scanner → List Item → Prop
  /-- At the greatest number there are no more. -/
  | full {rule : Occurrence P} {count : Nat} {here : Scanner}
      (bounded : rule.behaviour.cardinality.maximum = some count) :
      RepeatItems grammar rule count here []
  /-- An iteration that fails gives everything back. -/
  | failure {rule : Occurrence P} {count : Nat} {here : Scanner} (room : HasRoom rule count)
      (once : OnceParse grammar rule here none) : RepeatItems grammar rule count here []
  /-- An iteration that takes nothing is the last. -/
  | standing {rule : Occurrence P} {count : Nat} {here next : Scanner} {items : List Item}
      (room : HasRoom rule count) (once : OnceParse grammar rule here (some next))
      (still : next.position = here.position)
      (test : TestItems grammar (grammar.testOf rule) here items) :
      RepeatItems grammar rule count here items
  /-- After every other iteration come the items of those that follow. -/
  | further {rule : Occurrence P} {count : Nat} {here next : Scanner} {items later : List Item}
      (room : HasRoom rule count) (once : OnceParse grammar rule here (some next))
      (moved : next.position ≠ here.position)
      (test : TestItems grammar (grammar.testOf rule) here items)
      (rest : RepeatItems grammar rule (count + 1) next later) :
      RepeatItems grammar rule count here (items ++ later)

/-- The items that a test comes to that matches through other rules. -/
inductive TestItems (grammar : Grammar P) : Test P → Scanner → List Item → Prop
  /-- A reference comes to the items of the rule it refers to. -/
  | reference {target : RuleId} {here : Scanner} {items : List Item}
      (part : PartItems grammar target here items) :
      TestItems grammar (.reference target) here items
  /-- A group comes to the items of the rule inside it. -/
  | group {inner : RuleId} {here : Scanner} {items : List Item}
      (part : PartItems grammar inner here items) : TestItems grammar (.group inner) here items
  /-- A sequence comes to the items of its parts. -/
  | sequence {parts : List RuleId} {here : Scanner} {items : List Item}
      (all : AllItems grammar parts here items) : TestItems grammar (.sequence parts) here items
  /-- A choice comes to the items of the part that matches. -/
  | choice {parts : List RuleId} {here : Scanner} {items : List Item}
      (first : FirstItems grammar parts here items) : TestItems grammar (.choice parts) here items

/-- The items that parts come to that match one after the other. -/
inductive AllItems (grammar : Grammar P) : List RuleId → Scanner → List Item → Prop
  /-- No parts come to none. -/
  | nil {here : Scanner} : AllItems grammar [] here []
  /-- After the items of the first part come those of the others. -/
  | cons {id : RuleId} {parts : List RuleId} {here next : Scanner} {items later : List Item}
      (rule : RuleParse grammar id here (some next)) (part : PartItems grammar id here items)
      (rest : AllItems grammar parts next later) :
      AllItems grammar (id :: parts) here (items ++ later)

/-- The items that the first of several parts comes to that matches. -/
inductive FirstItems (grammar : Grammar P) : List RuleId → Scanner → List Item → Prop
  /-- The first part that matches gives the items. -/
  | here {id : RuleId} {parts : List RuleId} {here next : Scanner} {items : List Item}
      (rule : RuleParse grammar id here (some next)) (part : PartItems grammar id here items) :
      FirstItems grammar (id :: parts) here items
  /-- After a part that fails the others give them. -/
  | later {id : RuleId} {parts : List RuleId} {here : Scanner} {items : List Item}
      (rule : RuleParse grammar id here none) (rest : FirstItems grammar parts here items) :
      FirstItems grammar (id :: parts) here items
end

/-! ## What items leave -/

variable [Procedures P]

/-- The nodes that matching a rule at a cursor leaves, with nothing around it. -/
def nodesLeft (grammar : Grammar P) (id : RuleId) (here : Scanner) : List Node :=
  let alone : State NodeStack := .initial here.source .default .initial
  (matchRule grammar id { alone with scanner := here }).2.builder.top.nodes

/-- The nodes that an item leaves. -/
def Item.nodes (grammar : Grammar P) (item : Item) : List Node :=
  nodesLeft grammar item.id item.here

/-- Matching a rule leaves the nodes of the verdict on it. -/
theorem nodesLeft_eq {grammar : Grammar P} (free : grammar.isProcedureFree = true) {id : RuleId}
    {here : Scanner} {result : MatchResult} (known : finalVerdict grammar id here = some result) :
    nodesLeft grammar id here = (result.reply grammar (grammar.rule id) here.position).nodes := by
  let alone : State NodeStack :=
    { State.initial here.source .default .initial with scanner := here }
  have sound : alone.Sound grammar := .of_plain ⟨rfl, rfl⟩
  have scanner : alone.scanner = here := rfl
  rcases matchRule_cases NodeStack.ledger free id sound with
    ⟨verdict, same, answers⟩ | ⟨unknown, _⟩
  · rw [scanner, known] at same
    obtain rfl := Option.some.inj same
    have builder : (matchRule grammar id alone).2.builder = alone.builder.adding
        (result.reply grammar (grammar.rule id) here.position).nodes := answers.builder
    have added := NodeStack.nodes_top_adding alone.builder
      (result.reply grammar (grammar.rule id) here.position).nodes
    rw [← builder] at added
    exact added
  · rw [scanner, known] at unknown
    contradiction

/-! ## The items of trials -/

/-- Progress that was made over some items. -/
structure Progress.Over (grammar : Grammar P) (progress : Progress) (items : List Item)
    (next : Progress) : Prop where
  /-- The items lead from one cursor to the other. -/
  row : InRow progress.scanner.position items next.scanner.position
  /-- The nodes of the items were collected. -/
  nodes : next.nodes = progress.nodes ++ items.flatMap (Item.nodes grammar)
  /-- The items were noted. -/
  mark : progress.mark.lead ≤ progress.scanner.position →
    next.mark = items.foldl Mark.note progress.mark

namespace Progress.Over

variable {grammar : Grammar P} {progress middle next : Progress} {items later : List Item}

/-- Noting attempts is progress over nothing. -/
theorem journal (grammar : Grammar P) (progress : Progress) (journal : List Attempt) :
    progress.Over grammar [] { progress with journal } :=
  ⟨.nil, (List.append_nil _).symm, fun _ => rfl⟩

/-- Progress over some items and then over others is progress over all of them. -/
theorem trans (across : progress.Over grammar items middle)
    (rest : middle.Over grammar later next) : progress.Over grammar (items ++ later) next := by
  refine ⟨across.row.append rest.row, ?_, fun lead => ?_⟩
  · rw [rest.nodes, across.nodes, List.flatMap_append, List.append_assoc]
  · have noted := across.mark lead
    rw [List.foldl_append, ← noted]
    refine rest.mark ?_
    rw [noted]
    exact across.row.moves.lead_le lead

end Progress.Over

/-- The verdicts of an oracle leave the nodes of the items that the rules come to, and change the
mark around as these do. -/
structure Oracle.Itemizes (grammar : Grammar P) (oracle : Oracle) : Prop where
  /-- The verdicts are answers by the rules. -/
  parses : oracle.Parses grammar
  /-- The verdicts lead forward. -/
  forward : oracle.Forward
  /-- A rule that matches comes to items in a row, and leaves their nodes; the mark around changes
  with them. -/
  items : ∀ id here result, oracle id here = some result →
    (result.reply grammar (grammar.rule id) here.position).matched = true →
    ∃ items, PartItems grammar id here items ∧
      InRow here.position items (result.reply grammar (grammar.rule id) here.position).stop ∧
      (result.reply grammar (grammar.rule id) here.position).nodes =
        items.flatMap (Item.nodes grammar) ∧
      ∀ mark, mark.lead ≤ here.position →
        (result.reply grammar (grammar.rule id) here.position).change mark =
          items.foldl Mark.note mark

namespace Trial

variable {grammar : Grammar P} {oracle : Oracle} {progress next : Progress}

/-- A part that matches makes progress over its items. -/
theorem call_items (itemizes : oracle.Itemizes grammar) {id : RuleId}
    (matched : call grammar oracle id progress = .matched next) :
    ∃ items, PartItems grammar id progress.scanner items ∧ progress.Over grammar items next := by
  obtain ⟨result, known, taken⟩ := exists_of_call matched
  obtain ⟨goes, rfl⟩ := Progress.eq_of_take taken
  obtain ⟨items, part, row, nodes, change⟩ := itemizes.items id progress.scanner result known goes
  obtain ⟨_, inside⟩ := itemizes.forward.reply grammar known
  refine ⟨items, part, ?_, congrArg (progress.nodes ++ ·) nodes, change progress.mark⟩
  rw [Scanner.position_moveTo inside]
  exact row

/-- Parts that match in order make progress over their items. -/
theorem all_items (itemizes : oracle.Itemizes grammar) {parts : List RuleId}
    (matched : all grammar oracle parts progress = .matched next) :
    ∃ items, AllItems grammar parts progress.scanner items ∧ progress.Over grammar items next := by
  induction parts generalizing progress with
  | nil =>
    obtain rfl := Trial.matched.inj matched
    exact ⟨[], .nil, .journal grammar progress progress.journal⟩
  | cons id later ih =>
    unfold Trial.all at matched
    split at matched
    · rename_i middle called
      have first := call_parses itemizes.parses (congrArg Trial.answer called)
      obtain ⟨items, part, across⟩ := call_items itemizes called
      obtain ⟨others, rest, further⟩ := ih matched
      exact ⟨items ++ others, .cons first part rest, across.trans further⟩
    · contradiction
    · contradiction

/-- The first part that matches makes progress over its items. -/
theorem first_items (itemizes : oracle.Itemizes grammar) {parts : List RuleId}
    (matched : first grammar oracle parts progress = .matched next) :
    ∃ items, FirstItems grammar parts progress.scanner items ∧
      progress.Over grammar items next := by
  induction parts generalizing progress with
  | nil => contradiction
  | cons id later ih =>
    unfold Trial.first at matched
    split at matched
    · rename_i middle called
      have tried := call_parses itemizes.parses (congrArg Trial.answer called)
      obtain ⟨items, part, across⟩ := call_items itemizes called
      obtain rfl := Trial.matched.inj matched
      exact ⟨items, .here tried part, across⟩
    · rename_i journal called
      have tried := call_parses itemizes.parses (congrArg Trial.answer called)
      obtain ⟨items, rest, across⟩ := ih matched
      exact ⟨items, .later tried rest, across.row, across.nodes, across.mark⟩
    · contradiction

/-- A test that matches through other rules makes progress over its items. -/
theorem test_items (itemizes : oracle.Itemizes grammar) {subject : Test P}
    (through : Grammar.throughRules subject = true)
    (matched : test grammar oracle subject progress = .matched next) :
    ∃ items, TestItems grammar subject progress.scanner items ∧
      progress.Over grammar items next := by
  cases subject with
  | terminal terminal => contradiction
  | procedure steps => contradiction
  | reference target =>
    obtain ⟨items, part, across⟩ := call_items itemizes matched
    exact ⟨items, .reference part, across⟩
  | group inner =>
    obtain ⟨items, part, across⟩ := call_items itemizes matched
    exact ⟨items, .group part, across⟩
  | sequence parts =>
    obtain ⟨items, all, across⟩ := all_items itemizes matched
    exact ⟨items, .sequence all, across⟩
  | choice parts =>
    obtain ⟨items, first, across⟩ := first_items itemizes matched
    exact ⟨items, .choice first, across⟩

/-- Repetition of a rule that is made of its parts makes progress over their items. -/
theorem rounds_items (itemizes : oracle.Itemizes grammar) {rule : Occurrence P} {budget count : Nat}
    (made : grammar.isMadeOfParts rule = true)
    (budgeted : ∀ bound, rule.behaviour.cardinality.maximum = some bound → bound = count + budget)
    (matched : rounds grammar oracle rule budget count progress = .matched next) :
    ∃ items, RepeatItems grammar rule count progress.scanner items ∧
      progress.Over grammar items next := by
  have plain : rule.behaviour.negate = false := by
    simp only [Grammar.isMadeOfParts, Bool.and_eq_true, Bool.not_eq_true'] at made
    exact made.1
  have through : Grammar.throughRules (grammar.testOf rule) = true := by
    simp only [Grammar.isMadeOfParts, Bool.and_eq_true] at made
    exact made.2
  induction budget generalizing count progress with
  | zero =>
    unfold Trial.rounds at matched
    split at matched
    · rename_i bound bounded
      obtain rfl := budgeted bound bounded
      obtain rfl := eq_of_settle matched
      exact ⟨[], .full bounded, .journal _ _ _⟩
    · contradiction
  | succ budget ih =>
    have room : HasRoom rule count :=
      fun bound bounded => by have := budgeted bound bounded; omega
    unfold Trial.rounds at matched
    split at matched
    · rename_i middle iterated
      have iteration := once_parses itemizes.parses (congrArg Trial.answer iterated)
      have tested : test grammar oracle (grammar.testOf rule) progress = .matched middle := by
        unfold Trial.once at iterated
        rwa [plain, if_neg Bool.false_ne_true] at iterated
      obtain ⟨items, test, across⟩ := test_items itemizes through tested
      split at matched
      · rename_i still
        obtain rfl := eq_of_settle matched
        exact ⟨items, .standing room iteration still test, across⟩
      · rename_i moved
        have left : ∀ bound, rule.behaviour.cardinality.maximum = some bound →
            bound = count + 1 + budget :=
          fun bound bounded => by have := budgeted bound bounded; omega
        obtain ⟨later, rest, further⟩ := ih left matched
        exact ⟨items ++ later, .further room iteration moved test rest, across.trans further⟩
    · rename_i journal iterated
      have iteration := once_parses itemizes.parses (congrArg Trial.answer iterated)
      obtain rfl := eq_of_settle matched
      exact ⟨[], .failure room iteration, .journal _ _ _⟩
    · contradiction

/-- A rule that is made of its parts comes to their items. -/
theorem repeated_items (itemizes : oracle.Itemizes grammar) {rule : Occurrence P} {here : Scanner}
    (made : grammar.isMadeOfParts rule = true)
    (matched : repeated grammar oracle rule (.start here) = .matched next) :
    ∃ items, RepeatItems grammar rule 0 here items ∧
      InRow here.position items next.scanner.position ∧
      next.nodes = items.flatMap (Item.nodes grammar) ∧
      next.mark = items.foldl Mark.note (.start here.position) := by
  obtain ⟨items, kept, across⟩ := rounds_items itemizes made (maximum_eq_budget rule _) matched
  exact ⟨items, kept, across.row, across.nodes, across.mark (Nat.le_refl _)⟩

omit [Procedures P] in
/-- A rule that is not made of its parts leaves its mark as it was at the start. -/
theorem repeated_mark {rule : Occurrence P} {here : Scanner}
    (closed : grammar.isMadeOfParts rule = false)
    (matched : repeated grammar oracle rule (.start here) = .matched next) :
    next.mark = .start here.position := by
  refine @rounds_keeps _ grammar oracle (fun progress => progress.mark = .start here.position) _ _ _
    _ _ (fun _ _ kept => kept) (fun progress next kept iterated => ?_) rfl matched
  unfold Trial.once at iterated
  split at iterated
  · unfold refute at iterated
    split at iterated
    · contradiction
    · simp only at iterated
      split at iterated
      · obtain rfl := Trial.matched.inj iterated
        exact kept
      · split at iterated
        · obtain rfl := Trial.matched.inj iterated
          exact kept
        · contradiction
    · contradiction
  · rename_i plain
    simp only [Grammar.isMadeOfParts, Bool.not_eq_true _ ▸ plain, Bool.not_false,
      Bool.true_and] at closed
    generalize grammar.testOf rule = subject at closed iterated
    cases subject with
    | terminal terminal =>
      simp only [Trial.test] at iterated
      split at iterated
      · obtain rfl := Trial.matched.inj iterated
        exact kept
      · contradiction
    | procedure steps => contradiction
    | _ => contradiction

end Trial

/-! ## The items of verdicts -/

omit [Procedures P] in
/-- The report of a match that is not looked through notes the match. -/
theorem reportTo_of_not_isTransparent {grammar : Grammar P} {id : RuleId} {here : Scanner}
    (closed : grammar.isTransparent (grammar.rule id) = false) (stop : Nat)
    (content : Option Span) (mark : Mark) :
    reportTo grammar (grammar.rule id) here.position stop content mark =
      mark.note ⟨id, here, stop, (grammar.rule id).behaviour.isSkipping⟩ := by
  unfold reportTo Mark.note
  rw [closed]
  rfl

omit [Procedures P] in
/-- The report of a match that is looked through absorbs its content. -/
theorem reportTo_of_isTransparent {grammar : Grammar P} {rule : Occurrence P}
    (transparent : grammar.isTransparent rule = true) (start stop : Nat)
    (content : Option Span) (mark : Mark) :
    reportTo grammar rule start stop content mark = mark.absorb start stop content := by
  have kept : rule.behaviour.isSkipping = false := by
    unfold Grammar.isTransparent at transparent
    unfold Behaviour.isSkipping
    cases kind : rule.behaviour.kind with
    | scanning => rfl
    | structural token => rfl
    | skipping => simp [kind] at transparent
  unfold reportTo
  rw [kept, transparent]
  rfl

/-- If the verdicts on parts are itemized, so are the verdicts that follow from them, as far as they
are final. -/
theorem Oracle.Itemizes.step {grammar : Grammar P} (free : grammar.isProcedureFree = true)
    {oracle : Oracle} (itemizes : oracle.Itemizes grammar)
    (final : ∀ id here result, oracle.step grammar id here = some result →
      finalVerdict grammar id here = some result) : (oracle.step grammar).Itemizes grammar := by
  refine ⟨itemizes.parses.step, itemizes.forward.step, fun id here result known goes => ?_⟩
  have alone := nodesLeft_eq free (final id here result known)
  unfold Oracle.step at known
  generalize ended : Trial.repeated grammar oracle (grammar.rule id) (.start here) = trial at known
  cases trial with
  | diverged => contradiction
  | failed journal =>
    have failed := Trial.repeated_parses itemizes.parses (congrArg Trial.answer ended)
    obtain rfl := Option.some.inj known
    have pinned : (grammar.rule id).annotations.pinned = true := goes
    have row := InRow.single ⟨id, here, here.position, false⟩ (Nat.le_refl here.position)
    refine ⟨_, .recovered ⟨failed, pinned⟩, row, ?_, fun mark _ => ?_⟩
    · rw [List.flatMap_singleton, Item.nodes, alone]
    · simp only [MatchResult.reply, pinned, if_true]
      rfl
  | matched progress =>
    have matched := Trial.repeated_parses itemizes.parses (congrArg Trial.answer ended)
    have reached := (Trial.keeps_reaches itemizes.forward here).rounds (.refl here) ended
    obtain rfl := Option.some.inj known
    simp only [MatchResult.reply, Trial.remembered] at alone ⊢
    cases lookahead : (grammar.rule id).behaviour.lookahead with
    | true => exact ⟨[], .ahead matched lookahead, .nil, rfl, fun _ _ => rfl⟩
    | false =>
      rw [lookahead] at alone
      cases transparent : grammar.isTransparent (grammar.rule id) with
      | true =>
        have made := Grammar.isMadeOfParts_of_isTransparent transparent
        obtain ⟨items, inside, row, nodes, noted⟩ := Trial.repeated_items itemizes made ended
        refine ⟨items, .through lookahead transparent inside, row, ?_, fun mark lead => ?_⟩
        · rw [← nodes, production_transparent transparent]
          rfl
        · rw [row.foldl_note_eq_absorb lead, ← noted]
          exact reportTo_of_isTransparent transparent _ _ _ _
      | false =>
        have row := InRow.single ⟨id, here, progress.scanner.position,
          (grammar.rule id).behaviour.isSkipping⟩ reached.forward
        refine ⟨_, .whole lookahead transparent matched, row, ?_, fun mark _ => ?_⟩
        · rw [List.flatMap_singleton, Item.nodes, alone]
        · exact reportTo_of_not_isTransparent transparent _ _ _

/-- Verdicts are itemized. -/
theorem verdict_itemizes {grammar : Grammar P} (free : grammar.isProcedureFree = true)
    (depth : Nat) : (verdict grammar depth).Itemizes grammar := by
  induction depth with
  | zero =>
    exact ⟨verdict_parses grammar 0, verdict_forward grammar 0,
      fun id here result known => by contradiction⟩
  | succ depth ih =>
    exact ih.step free fun id here result known =>
      verdict_refines_final grammar here.source (depth + 1) id here result rfl known

/-- Final verdicts are itemized. -/
theorem finalVerdict_itemizes {grammar : Grammar P} (free : grammar.isProcedureFree = true) :
    (finalVerdict grammar).Itemizes grammar where
  parses id here result known := (verdict_itemizes free _).parses id here result known
  forward := finalVerdict_forward grammar
  items id here result known := (verdict_itemizes free _).items id here result known

end Packrat
