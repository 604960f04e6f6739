import Packrat.Proofs.TreeShape

/-!
# Evaluations in a frame of their own

A nameless rule that matches its parts once and contributes their nodes opens a frame: its parts are
evaluated from a fresh mark with no nodes, and what they come to is handed on at the end. Evaluating
them in the frame around goes in step with that (`Trial.all_joins`): the nodes, the diagnostics and
the attempts are added to those around, and the mark around changes with every part as it changes
when the frame hands on its content (`Mark.Joins`). So the verdict on the rule is what evaluating
its parts from a fresh frame comes to (`Grammar.Wraps.step`).
-/

namespace Packrat

variable {P : Type}

/-! ## Marks -/

namespace Mark

/-- Skipping nothing changes nothing. -/
theorem skipped_self (mark : Mark) (position : Nat) : mark.skipped position position = mark :=
  if_pos rfl

/-- Where the stretch starts that ends with what is skipped from a position on: what was skipped
just before belongs to it. -/
def margin (mark : Mark) (position : Nat) : Nat :=
  match mark.trail with
  | some trail => if trail.stop = position then trail.start else position
  | none => position

/-- The content ends where what is skipped behind it starts. -/
theorem content_eq (mark : Mark) (position : Nat) :
    mark.content position = ⟨mark.lead, max (mark.margin position) mark.lead⟩ := by
  unfold content margin
  cases mark.trail with
  | none => rfl
  | some trail => rfl

/-- A stretch skipped where the content is still to start makes it start later. -/
theorem skipped_leading {mark : Mark} {first : Nat} (unanchored : mark.anchored = false)
    (lead : mark.lead = first) (last : Nat) :
    mark.skipped first last = { mark with lead := last } := by
  obtain ⟨_, trail, _⟩ := mark
  subst lead unanchored
  unfold skipped
  simp only [Bool.not_false, decide_true, Bool.and_self, ↓reduceIte, ite_eq_right_iff]
  exact fun same => congrArg (Mark.mk · trail false) same

/-- A stretch skipped after the content has started is the last one, with what was skipped just
before. -/
theorem skipped_trailing {mark : Mark} {first last : Nat} (proper : first ≠ last)
    (started : ¬ (mark.anchored = false ∧ mark.lead = first)) :
    mark.skipped first last = { mark with trail := some ⟨mark.margin first, last⟩ } := by
  have leading : (!mark.anchored && decide (first = mark.lead)) = true ↔
      mark.anchored = false ∧ mark.lead = first := by
    rw [Bool.and_eq_true, Bool.not_eq_true', decide_eq_true_iff, eq_comm (a := first)]
  unfold skipped margin
  rw [if_neg proper, if_neg (mt leading.mp started)]
  cases mark.trail with
  | none => rfl
  | some trail =>
    simp only
    split <;> rfl

/-- A stretch skipped from where another ends is skipped with it as one. -/
theorem skipped_skipped {mark : Mark} {first middle last : Nat} (lead : mark.lead ≤ first)
    (forward : first ≤ middle) (further : middle ≤ last) :
    (mark.skipped first middle).skipped middle last = mark.skipped first last := by
  obtain rfl | ahead := Nat.eq_or_lt_of_le forward
  · rw [skipped_self]
  obtain rfl | beyond := Nat.eq_or_lt_of_le further
  · rw [skipped_self]
  by_cases leading : mark.anchored = false ∧ mark.lead = first
  · obtain ⟨unanchored, still⟩ := leading
    rw [skipped_leading unanchored still, skipped_leading unanchored still]
    exact @skipped_leading { mark with lead := middle } middle unanchored rfl last
  · have behind : mark.lead ≠ middle := Nat.ne_of_lt (Nat.lt_of_le_of_lt lead ahead)
    have joined := @skipped_trailing { mark with trail := some ⟨mark.margin first, middle⟩ } _ _
      (Nat.ne_of_lt beyond) fun still => behind still.2
    rw [skipped_trailing (Nat.ne_of_lt ahead) leading, joined,
      skipped_trailing (Nat.ne_of_lt (Nat.lt_trans ahead beyond)) leading]
    simp only [margin, ↓reduceIte]

/-- What was skipped at the end of the content is forgotten when something is consumed. -/
theorem consumed_skipped_consumed (mark : Mark) (first last : Nat) :
    (mark.consumed.skipped first last).consumed = mark.consumed := by
  by_cases empty : first = last
  · rw [empty, skipped_self]
    rfl
  · rw [skipped_trailing empty fun unanchored => Bool.noConfusion unanchored.1]
    rfl

/-- How a mark may change while the cursor goes from one position to another. -/
inductive Moves : Nat → Nat → (Mark → Mark) → Prop
  /-- Nothing happens. -/
  | stay {position : Nat} : Moves position position id
  /-- Something is consumed. -/
  | consumed {first last : Nat} (forward : first ≤ last) : Moves first last Mark.consumed
  /-- Everything in between is skipped. -/
  | skipped {first last : Nat} (forward : first ≤ last) : Moves first last (·.skipped first last)
  /-- One change comes after another. -/
  | andThen {first middle last : Nat} {earlier later : Mark → Mark}
      (before : Moves first middle earlier) (after : Moves middle last later) :
      Moves first last fun mark => later (earlier mark)

namespace Moves

variable {first last : Nat} {change : Mark → Mark}

/-- A content that lies in between is absorbed. -/
theorem absorb {content : Span} (starts : first ≤ content.start)
    (ordered : content.start ≤ content.stop) (stops : content.stop ≤ last) :
    Moves first last (·.absorb first last (some content)) :=
  ((Moves.skipped starts).andThen (.consumed ordered)).andThen (.skipped stops)

/-- The content still starts before the cursor. -/
theorem lead_le (moves : Moves first last change) {mark : Mark} (lead : mark.lead ≤ first) :
    (change mark).lead ≤ last := by
  induction moves generalizing mark with
  | stay => exact lead
  | consumed forward => exact Nat.le_trans lead forward
  | @skipped first last forward =>
    change (mark.skipped first last).lead ≤ last
    by_cases leading : mark.anchored = false ∧ mark.lead = first
    · rw [skipped_leading leading.1 leading.2]
    · by_cases empty : first = last
      · rw [← empty, skipped_self]
        exact lead
      · rw [skipped_trailing empty leading]
        exact Nat.le_trans lead forward
  | andThen _ _ before after => exact after (before lead)

end Moves

/-- The mark of a frame that was opened at an origin, with the mark around as it was then and as it
is now: it has changed by absorbing what the frame has come to. -/
structure Joins (outer : Mark) (origin : Nat) (inner : Mark) (position : Nat) (joined : Mark) :
    Prop where
  /-- The content around starts before the frame. -/
  lead : outer.lead ≤ origin
  /-- The content of the frame starts behind the origin. -/
  starts : origin ≤ inner.lead
  /-- The content of the frame starts before the cursor. -/
  stops : inner.lead ≤ position
  /-- While everything was skipped, the content is still to start. -/
  unanchored : inner.anchored = false → inner.lead = position
  /-- The last skipped stretch does not end before it starts. -/
  trail : ∀ trail ∈ inner.trail, trail.start ≤ trail.stop
  /-- The mark around has absorbed the content. -/
  joined : joined = outer.absorb origin position (inner.summary position)

namespace Joins

variable {outer inner joined : Mark} {origin position stop : Nat}

/-- A frame that was just opened has changed nothing. -/
theorem start (lead : outer.lead ≤ origin) : Joins outer origin (.start origin) origin outer where
  lead := lead
  starts := Nat.le_refl _
  stops := Nat.le_refl _
  unanchored _ := rfl
  trail _ none := by contradiction
  joined := (skipped_self outer origin).symm

/-- What would be skipped with the next stretch does not start behind the cursor. -/
theorem margin_le (joins : Joins outer origin inner position joined) :
    inner.margin position ≤ position := by
  unfold margin
  split
  · rename_i trail skipped
    have ordered := joins.trail trail skipped
    split
    · rename_i ends
      exact ends ▸ ordered
    · exact Nat.le_refl _
  · exact Nat.le_refl _

/-- The content around still starts before the cursor. -/
theorem lead_le (joins : Joins outer origin inner position joined) : joined.lead ≤ position := by
  have moves : Moves origin position (·.absorb origin position (inner.summary position)) := by
    unfold summary
    cases inner.anchored with
    | true =>
      rw [content_eq]
      exact .absorb joins.starts (Nat.le_max_right _ _)
        (Nat.max_le.mpr ⟨joins.margin_le, joins.stops⟩)
    | false => exact .skipped (Nat.le_trans joins.starts joins.stops)
  rw [joins.joined]
  exact moves.lead_le joins.lead

/-- Consuming something in the frame consumes it around. -/
theorem consumed (joins : Joins outer origin inner position joined) (forward : position ≤ stop) :
    Joins outer origin inner.consumed stop joined.consumed where
  lead := joins.lead
  starts := joins.starts
  stops := Nat.le_trans joins.stops forward
  unanchored anchored := by contradiction
  trail _ none := by contradiction
  joined := by
    have content : inner.consumed.summary stop = some ⟨inner.lead, stop⟩ := by
      have ordered := Nat.le_trans joins.stops forward
      simp only [summary, content_eq, Mark.consumed, Mark.margin, ↓reduceIte,
        Nat.max_eq_left ordered]
    rw [content, joins.joined]
    simp only [absorb, skipped_self]
    unfold summary
    cases anchored : inner.anchored with
    | true => exact consumed_skipped_consumed _ _ _
    | false =>
      rw [joins.unanchored anchored]
      rfl

/-- Skipping a stretch in the frame skips it around. -/
theorem skipped (joins : Joins outer origin inner position joined) (forward : position ≤ stop) :
    Joins outer origin (inner.skipped position stop) stop (joined.skipped position stop) := by
  obtain rfl | ahead := Nat.eq_or_lt_of_le forward
  · rwa [skipped_self, skipped_self]
  have onward := Nat.le_trans joins.starts joins.stops
  cases anchored : inner.anchored with
  | false =>
    rw [skipped_leading anchored (joins.unanchored anchored)]
    refine ⟨joins.lead, Nat.le_trans onward forward, Nat.le_refl _, fun _ => rfl, joins.trail, ?_⟩
    rw [joins.joined]
    simp only [summary, anchored, Bool.false_eq_true, ↓reduceIte, absorb]
    exact skipped_skipped joins.lead onward forward
  | true =>
    have margin := joins.margin_le
    rw [skipped_trailing (Nat.ne_of_lt ahead) (by simp [anchored])]
    refine ⟨joins.lead, joins.starts, Nat.le_trans joins.stops forward,
      fun unanchored => ?_, fun trail skipped => ?_, ?_⟩
    · rw [anchored] at unanchored
      contradiction
    · obtain rfl := Option.some.inj skipped
      exact Nat.le_trans margin forward
    · -- the content ends where it did, and what was skipped behind it is one stretch
      have same : ({ inner with trail := some ⟨inner.margin position, stop⟩ } : Mark).summary stop =
          inner.summary position := by
        simp only [summary, content_eq, anchored, ↓reduceIte, Mark.margin]
      have lead := (Moves.skipped joins.starts).lead_le joins.lead
      rw [same, joins.joined]
      simp only [summary, anchored, ↓reduceIte, absorb]
      refine skipped_skipped (Nat.le_trans lead (Nat.le_max_right _ _)) ?_ forward
      exact Nat.max_le.mpr ⟨margin, joins.stops⟩

/-- Every change in the frame is one around. -/
theorem moves (joins : Joins outer origin inner position joined) {change : Mark → Mark}
    (moves : Moves position stop change) :
    Joins outer origin (change inner) stop (change joined) := by
  induction moves generalizing inner joined with
  | stay => exact joins
  | consumed forward => exact joins.consumed forward
  | skipped forward => exact joins.skipped forward
  | andThen _ _ before after => exact after (before joins)

end Joins

end Mark

/-! ## Replies -/

/-- A reply from a cursor that stops inside the source and changes the mark around as the cursor
goes there. -/
structure Reply.Paces (here : Scanner) (reply : Reply) : Prop where
  /-- The reply stops inside the source. -/
  inside : reply.stop ≤ here.source.length
  /-- The mark around changes as the cursor goes. -/
  moves : Mark.Moves here.position reply.stop reply.change

/-- Every reply of an oracle changes the mark around as the cursor goes. -/
def Oracle.Paces (grammar : Grammar P) (oracle : Oracle) : Prop :=
  ∀ id here result, oracle id here = some result →
    (result.reply grammar (grammar.rule id) here.position).Paces here

/-- The report of a match to the rule around changes the mark as the cursor goes. -/
theorem Laid.reportTo_moves {length position stop : Nat} {own : Mark} {nodes : List Node}
    (inner : Laid length position stop own nodes) (grammar : Grammar P) (rule : Occurrence P) :
    Mark.Moves position stop (reportTo grammar rule position stop (own.summary stop)) := by
  have forward : position ≤ stop := Nat.le_trans inner.behind inner.lead
  obtain ⟨starts, ordered, stops, _⟩ := inner.content
  unfold reportTo Mark.summary
  split
  · exact .skipped forward
  · split
    · cases own.anchored with
      | true => exact .absorb starts ordered stops
      | false => exact .skipped forward
    · exact .consumed forward

/-- Verdicts that follow from verdicts that lay out nodes change the mark as the cursor goes. -/
theorem Oracle.Lays.paces_step {grammar : Grammar P} {oracle : Oracle} (lays : oracle.Lays grammar)
    (forward : oracle.Forward) : (oracle.step grammar).Paces grammar := by
  intro id here result known
  refine ⟨(forward.step.reply grammar known).2, ?_⟩
  unfold Oracle.step Trial.conclude at known
  split at known
  · rename_i ended repeated
    have inner := (Trial.keeps_laid lays here.position).rounds (Laid.start here.inside) repeated
    obtain rfl := Option.some.inj known
    simp only [MatchResult.reply, Trial.remembered]
    cases (grammar.rule id).behaviour.lookahead with
    | true => exact .stay
    | false => exact inner.reportTo_moves grammar (grammar.rule id)
  · obtain rfl := Option.some.inj known
    simp only [MatchResult.reply]
    cases (grammar.rule id).annotations.pinned with
    | true => exact .consumed (Nat.le_refl _)
    | false => exact .stay
  · contradiction

/-- Verdicts change the mark around as the cursor goes. -/
theorem verdict_paces (grammar : Grammar P) (depth : Nat) :
    (verdict grammar depth).Paces grammar := by
  cases depth with
  | zero => exact fun id here result known => by contradiction
  | succ depth => exact (verdict_lays grammar depth).paces_step (verdict_forward grammar depth)

/-- Final verdicts change the mark around as the cursor goes. -/
theorem finalVerdict_paces (grammar : Grammar P) : (finalVerdict grammar).Paces grammar :=
  fun id here => verdict_paces grammar (finalDepth grammar here.source) id here

/-! ## Parts in order -/

/-- An evaluation that goes on from where another matched. -/
def Trial.andThen (trial : Trial) (later : Progress → Trial) : Trial :=
  match trial with
  | .matched next => later next
  | .failed journal => .failed journal
  | .diverged => .diverged

section Parts

variable (grammar : Grammar P) (oracle : Oracle)

/-- Parts are matched by matching the first, and then the others. -/
theorem Trial.all_cons (part : RuleId) (later : List RuleId) (progress : Progress) :
    all grammar oracle (part :: later) progress =
      (call grammar oracle part progress).andThen (all grammar oracle later) :=
  rfl

/-- Parts one after the other are matched by matching the first ones, and then the others. -/
theorem Trial.all_append (parts later : List RuleId) (progress : Progress) :
    all grammar oracle (parts ++ later) progress =
      (all grammar oracle parts progress).andThen (all grammar oracle later) := by
  induction parts generalizing progress with
  | nil => rfl
  | cons id rest ih =>
    rw [List.cons_append, all_cons, all_cons]
    cases call grammar oracle id progress with
    | diverged => rfl
    | failed journal => rfl
    | matched next => exact ih next

/-- One part is matched by matching it. -/
theorem Trial.all_single (part : RuleId) (progress : Progress) :
    all grammar oracle [part] progress = call grammar oracle part progress := by
  rw [all_cons]
  cases call grammar oracle part progress with
  | diverged => rfl
  | failed journal => rfl
  | matched next => rfl

end Parts

/-! ## Frames -/

/-- What has come of a frame that was opened at some progress, evaluated on its own and in the frame
around. -/
structure Progress.Joins (outer inner joined : Progress) : Prop where
  /-- The source is still the same. -/
  source : outer.scanner.source = inner.scanner.source
  /-- The cursor is the same. -/
  scanner : joined.scanner = inner.scanner
  /-- The nodes are added to those around. -/
  nodes : joined.nodes = outer.nodes ++ inner.nodes
  /-- The diagnostics are added to those around. -/
  diagnostics : joined.diagnostics = outer.diagnostics ++ inner.diagnostics
  /-- The attempts are added to those around. -/
  journal : joined.journal = inner.journal ++ outer.journal
  /-- The mark around changes as that of the frame. -/
  mark : outer.mark.Joins outer.scanner.position inner.mark inner.scanner.position joined.mark

/-- How evaluations of a frame on its own and in the frame around end. -/
inductive Trial.Joins (outer : Progress) : Trial → Trial → Prop
  /-- Neither has an end. -/
  | diverged : Joins outer .diverged .diverged
  /-- Both failed. -/
  | failed {journal : List Attempt} :
      Joins outer (.failed journal) (.failed (journal ++ outer.journal))
  /-- Both matched. -/
  | matched {inner joined : Progress} (joins : outer.Joins inner joined) :
      Joins outer (.matched inner) (.matched joined)

/-- A frame that was just opened has added nothing. -/
theorem Progress.Joins.start {outer : Progress} (lead : outer.mark.lead ≤ outer.scanner.position) :
    outer.Joins (.start outer.scanner) outer where
  source := rfl
  scanner := rfl
  nodes := (List.append_nil _).symm
  diagnostics := (List.append_nil _).symm
  journal := (List.nil_append _).symm
  mark := .start lead

namespace Trial

variable {grammar : Grammar P} {oracle : Oracle} {outer inner joined : Progress}

/-- Matching a part in a frame goes in step with matching it in the frame around. -/
theorem call_joins (paces : oracle.Paces grammar)
    (joins : outer.Joins inner joined) (id : RuleId) :
    Joins outer (call grammar oracle id inner) (call grammar oracle id joined) := by
  unfold call
  rw [joins.scanner]
  cases known : oracle id inner.scanner with
  | none => exact .diverged
  | some result =>
    have pace := paces id inner.scanner result known
    simp only
    generalize result.reply grammar (grammar.rule id) inner.scanner.position = reply at pace
    unfold Progress.take
    cases reply.matched with
    | false =>
      simp only [Bool.false_eq_true, ↓reduceIte, joins.journal, ← List.append_assoc]
      exact .failed
    | true =>
      refine .matched ⟨joins.source, ?_, ?_, ?_, ?_, ?_⟩
      · rw [joins.scanner]
      · rw [joins.nodes, List.append_assoc]
      · rw [joins.diagnostics, List.append_assoc]
      · rw [joins.journal, List.append_assoc]
      · rw [Scanner.position_moveTo pace.inside]
        exact joins.mark.moves pace.moves

/-- Matching parts in order in a frame goes in step with matching them in the frame around. -/
theorem all_joins (paces : oracle.Paces grammar)
    (joins : outer.Joins inner joined) (parts : List RuleId) :
    Joins outer (all grammar oracle parts inner) (all grammar oracle parts joined) := by
  induction parts generalizing inner joined with
  | nil => exact .matched joins
  | cons id later ih =>
    have called := call_joins paces joins id
    rw [all_cons, all_cons]
    generalize call grammar oracle id inner = trial at called
    generalize call grammar oracle id joined = other at called
    cases called with
    | diverged => exact .diverged
    | failed => exact .failed
    | matched next => exact ih next

end Trial

/-! ## Wrappers -/

/-- A nameless rule that matches some parts in order, once, and contributes what they do. -/
structure Grammar.Wraps (grammar : Grammar P) (id : RuleId) (parts : List RuleId) : Prop where
  /-- The rule has no name. -/
  name : (grammar.rule id).name = none
  /-- The rule matches once and contributes the nodes of its parts. -/
  behaviour : (grammar.rule id).behaviour = .scanning
  /-- The rule has no annotations. -/
  annotations : (grammar.rule id).annotations = .empty
  /-- The rule is a sequence of the parts, or a group around the only one. -/
  body : (grammar.rule id).body = .own (.sequence parts) ∨
    ∃ part, parts = [part] ∧ (grammar.rule id).body = .own (.group part)

namespace Grammar.Wraps

variable {grammar : Grammar P} {id : RuleId} {parts : List RuleId}

/-- The rule is not reported when it fails. -/
theorem isReported (wraps : grammar.Wraps id parts) : (grammar.rule id).isReported = false := by
  rw [Occurrence.isReported, wraps.behaviour, wraps.name]
  rfl

/-- The rule is not recovered from when it fails. -/
theorem pinned (wraps : grammar.Wraps id parts) :
    (grammar.rule id).annotations.pinned = false := by
  rw [wraps.annotations]
  rfl

/-- The rule leaves the nodes of its parts. -/
theorem production (wraps : grammar.Wraps id parts) (span : Span) :
    production (grammar.rule id) span = .transparent := by
  unfold Packrat.production Occurrence.shape
  rw [wraps.behaviour]
  rfl

/-- The rule hands on the skipped edges of its parts. -/
theorem reportTo (wraps : grammar.Wraps id parts) (start stop : Nat) (content : Option Span) :
    reportTo grammar (grammar.rule id) start stop content = (·.absorb start stop content) := by
  have through : throughRules (grammar.testOf (grammar.rule id)) = true := by
    unfold testOf
    rcases wraps.body with body | ⟨part, _, body⟩
    all_goals
      rw [body]
      rfl
  funext mark
  unfold Packrat.reportTo isTransparent
  rw [wraps.behaviour, through]
  rfl

/-- The rule is evaluated by evaluating its parts in order. -/
theorem repeated (wraps : grammar.Wraps id parts) (oracle : Oracle) (progress : Progress) :
    Trial.repeated grammar oracle (grammar.rule id) progress =
      Trial.all grammar oracle parts progress := by
  rw [Trial.repeated_once (by rw [wraps.behaviour]; rfl) (by rw [wraps.behaviour]; rfl)]
  unfold testOf
  rcases wraps.body with body | ⟨part, rfl, body⟩
  · rw [body]
    rfl
  · rw [body]
    exact (Trial.all_single grammar oracle part progress).symm

/-- The verdict on the rule is what its parts come to in a frame of their own. -/
theorem step (wraps : grammar.Wraps id parts) (oracle : Oracle) (origin : Scanner) :
    oracle.step grammar id origin = Trial.conclude grammar id origin.position
      (Trial.all grammar oracle parts (.start origin)) := by
  rw [Oracle.step, wraps.repeated]

/-- The rule replies with what its parts have come to. -/
theorem reply_success (wraps : grammar.Wraps id parts) (origin : Nat) (ended : Progress) :
    (MatchResult.success (Trial.remembered grammar id origin ended)).reply grammar
      (grammar.rule id) origin =
        { matched := true
          stop := ended.scanner.position
          nodes := ended.nodes
          diagnostics := ended.diagnostics
          change := (·.absorb origin ended.scanner.position
            (ended.mark.summary ended.scanner.position))
          attempts := [.rule id origin true ended.journal.reverse] } := by
  simp only [MatchResult.reply, Trial.remembered, wraps.production, wraps.reportTo, wraps.behaviour]
  rfl

end Grammar.Wraps

end Packrat
