import Packrat.Builder.Transcript
import Packrat.Construction
import Packrat.Proofs.Conduct
import Packrat.Proofs.Streaming

/-!
# Notifications nest

Whatever becomes of a rule, its builder is told once that it starts and once that it ends, and of
the rules inside it in between. So the notifications of matching nest like brackets (`Balanced`)
for every builder: a transcript kept beside the builder shows it (`Overheard`), and keeping it does
not change what the builder is told (`Overheard.isView_builder`).

A relation between states that is kept by a pair of brackets and by everything that tells the
builder of no rule (`Bracketing`) holds of every match. For node stacks such a relation says that
the depth is the same and that the root frame was never to be closed.
-/

namespace Packrat

variable {P : Type}

/-! ## Pairs of brackets -/

/-- How a builder is told that a rule ends. -/
inductive Ending where
  /-- The rule matched. -/
  | produced (production : Production)
  /-- The rule failed. -/
  | failed
  /-- The rule matched as it did before and brings back some nodes. -/
  | restored (nodes : List Node)

/-- The builder after it was told that a rule ends. -/
def Ending.tell {β : Type} [Builder β] : Ending → β → β
  | produced production => Builder.produced production
  | failed => Builder.failed
  | restored nodes => Builder.restored nodes

/-- What a transcript notes when a rule ends. -/
def Ending.notification : Ending → Notification
  | produced production => .produced production
  | failed => .failed
  | restored nodes => .restored nodes.length

/-- Notifications of rules that start and end like brackets: each rule that starts ends once, after
the rules that started inside it. -/
inductive Balanced : List Notification → Prop
  /-- Nothing is told. -/
  | nothing : Balanced []
  /-- A rule starts and ends around what is told inside it, and more is told afterwards. -/
  | bracket {inside after : List Notification} (token : Option Token) (ending : Ending)
      (inner : Balanced inside) (later : Balanced after) :
      Balanced (.opened token :: inside ++ ending.notification :: after)

/-- What is told one after the other nests if each part does. -/
theorem Balanced.append {earlier later : List Notification} (first : Balanced earlier)
    (second : Balanced later) : Balanced (earlier ++ later) := by
  induction first with
  | nothing => exact second
  | bracket token ending inner _ _ ih =>
    rw [List.append_assoc, List.cons_append]
    exact .bracket token ending inner ih

/-- A rule that starts and ends around what nests. -/
theorem Balanced.around {inside : List Notification} (inner : Balanced inside)
    (token : Option Token) (ending : Ending) :
    Balanced (.opened token :: inside ++ [ending.notification]) :=
  .bracket token ending inner .nothing

/-! ## Relations that brackets keep -/

/-- What has to go from a cache is no root frame. -/
theorem MatchCache.rootFrameKept_notMem_evictions (cache : MatchCache) (position : Nat)
    (rule : RuleId) : .rootFrameKept ∉ cache.evictions position rule := by
  unfold evictions
  intro listed
  split at listed
  · contradiction
  · split at listed
    · split at listed
      · contradiction
      · split at listed
        · exact absurd (List.mem_singleton.mp listed) nofun
        · contradiction
    · split at listed
      · obtain ⟨slot, -, same⟩ := List.mem_map.mp listed
        exact absurd same nofun
      · contradiction

/-- A relation between an earlier and a later state that is kept by a rule that starts and ends, and
by everything else that matching does. -/
structure Bracketing {β : Type} [Builder β] (Rel : State β → State β → Prop) : Prop where
  /-- What holds from one state to another and from there to a third holds throughout. -/
  trans : ∀ {first second third}, Rel first second → Rel second third → Rel first third
  /-- The builder need not be told anything, and no remark need be made about the root frame. -/
  aside : ∀ {state next}, next.builder = state.builder →
    (.rootFrameKept ∈ next.remarks → .rootFrameKept ∈ state.remarks) → Rel state next
  /-- What was collected may be cut back. -/
  cutBack : ∀ state count, Rel state (state.notify (Builder.cutBack count))
  /-- A rule may start and end. -/
  bracket : ∀ {state next} (token : Option Token) (ending : Ending),
    Rel (state.notify (Builder.opened token)) next → Rel state (next.close ending.tell)

namespace Bracketing

variable {β : Type} [Builder β] {Rel : State β → State β → Prop} (bracketing : Bracketing Rel)
  {grammar : Grammar P} {call : RuleId → Action β}

include bracketing

/-- Every state is related to itself. -/
theorem refl (state : State β) : Rel state state :=
  bracketing.aside rfl id

/-- The relation holds on if afterwards the builder is told nothing. -/
theorem proceed {state middle next : State β} (related : Rel state middle)
    (same : next.builder = middle.builder)
    (silent : .rootFrameKept ∈ next.remarks → .rootFrameKept ∈ middle.remarks) : Rel state next :=
  bracketing.trans related (bracketing.aside same silent)

/-- The relation held already if before it the builder was told nothing. -/
theorem precede {state middle next : State β} (related : Rel middle next)
    (same : middle.builder = state.builder)
    (silent : .rootFrameKept ∈ middle.remarks → .rootFrameKept ∈ state.remarks) : Rel state next :=
  bracketing.trans (bracketing.aside same silent) related

/-- Coming back to a checkpoint cuts back what was collected. -/
theorem restore {state next : State β} (related : Rel state next) (checkpoint : Checkpoint) :
    Rel state (next.restore checkpoint) :=
  bracketing.proceed
    (bracketing.trans related (bracketing.cutBack next checkpoint.collected)) rfl id

/-- A relation that brackets keep is a conduct, whatever the outcome. -/
def conduct : Conduct β where
  Does state result := Rel state result.2
  Room _ _ := True
  stays := bracketing.refl
  turns _ _ related := related
  follows _ := bracketing.trans
  moves _ := bracketing.aside rfl id
  restores related := bracketing.restore related _
  refutes := by
    intro state next outcome related
    have entered : Rel state next := bracketing.precede related rfl id
    exact bracketing.proceed (bracketing.restore entered state.checkpoint) rfl id
  starts _ := trivial
  spends _ _ _ := trivial
  exhausts _ := bracketing.refl _

/-- Remembering a match tells the builder nothing. -/
theorem remember {state next : State β} (related : Rel state next) (id : RuleId) (origin : Nat)
    (result : MatchResult) : Rel state (next.remember id origin result) := by
  refine bracketing.proceed related (State.remember_alike _ _ _ _).builder ?_
  unfold State.remember
  split
  · exact fun kept => kept
  · rename_i cache _
    intro kept
    refine (List.mem_append.mp kept).resolve_left fun evicted => ?_
    exact cache.rootFrameKept_notMem_evictions origin id (List.mem_reverse.mp evicted)

variable {rule : Occurrence P} {entered ended : State β}

/-- A rule that matched ends once. -/
theorem succeed (rule : Occurrence P) (origin : Nat) (mark : Mark) {token : Option Token}
    (inside : Rel (entered.notify (Builder.opened token)) ended) :
    Rel entered (Packrat.succeed grammar rule origin mark ended) := by
  unfold Packrat.succeed
  split
  · exact bracketing.bracket token (.produced .discarded)
      (bracketing.proceed inside rfl fun kept => kept)
  · exact bracketing.proceed (bracketing.bracket token
      (.produced (production rule (mark.content ended.position))) inside) rfl fun kept => kept

/-- A rule that matched and is remembered ends once. -/
theorem endMatched (id : RuleId) {token : Option Token}
    (inside : Rel (entered.notify (Builder.opened token)) ended) :
    Rel entered (Packrat.endMatched grammar id entered ended) := by
  have outer : Rel (entered.notify (Builder.opened token)) { ended with mark := entered.mark } :=
    bracketing.proceed inside rfl fun kept => kept
  have logged : Rel entered (logAttempt grammar id true ended.journal.reverse entered
      (Packrat.succeed grammar (grammar.rule id) entered.position
        (ended.mark.getD (.start entered.position)) { ended with mark := entered.mark })) :=
    bracketing.proceed (bracketing.succeed _ _ _ outer) rfl fun kept => kept
  unfold Packrat.endMatched
  simp only
  split
  · exact bracketing.remember logged _ _ _
  · exact logged

/-- A pinned rule that failed starts and ends once more. -/
theorem recover {state : State β} (related : Rel entered state) (origin : Nat) :
    Rel entered (Packrat.recover grammar rule origin state).2 := by
  unfold Packrat.recover
  split
  · have remarked : Rel entered
        (state.remark (.recovering rule.label origin (recoveryMessage grammar rule))) :=
      bracketing.proceed related rfl fun kept => (List.mem_cons.mp kept).resolve_left nofun
    have told := bracketing.bracket (some .error)
      (.produced (.node .error
        (rule.annotations.insert .error (.text (recoveryMessage grammar rule))) (.point origin)))
      (bracketing.refl ((state.remark (.recovering rule.label origin
        (recoveryMessage grammar rule))).notify (Builder.opened (some .error))))
    exact bracketing.proceed (bracketing.trans remarked told) rfl id
  · exact related

/-- A rule that did not match ends once. -/
theorem endMismatched (id : RuleId) {token : Option Token}
    (inside : Rel (entered.notify (Builder.opened token)) ended) :
    Rel entered (Packrat.endMismatched grammar id entered ended) := by
  unfold Packrat.endMismatched
  refine bracketing.remember ?_ _ _ _
  exact bracketing.proceed (bracketing.bracket token .failed inside) rfl fun kept => kept

/-- A rule that is ended as a cached match says starts and ends once. -/
theorem replay (origin : Nat) (result : MatchResult) (state : State β) :
    Rel state (Packrat.replay grammar rule origin result state).2 := by
  have opened := bracketing.refl (state.notify (Builder.opened rule.token))
  cases result with
  | success remembered =>
    have told := bracketing.bracket rule.token (.restored remembered.nodes) opened
    unfold Packrat.replay
    simp only
    split <;> exact bracketing.proceed told rfl id
  | failure attempts =>
    have told := bracketing.bracket rule.token .failed opened
    unfold Packrat.replay
    refine bracketing.recover ?_ origin
    exact bracketing.proceed told rfl id

variable [Procedures P]

/-- A rule that the cache knows nothing about starts and ends once, whatever the outcome. -/
theorem matchAfresh (free : grammar.isProcedureFree = true)
    (called : ∀ id state, Rel state (call id state).2) (id : RuleId) (state : State β) :
    Rel state (Packrat.matchAfresh grammar call id state).2 := by
  have evaluated : Rel (openRule (grammar.rule id) state)
      (repeatTest grammar call (grammar.rule id) (openRule (grammar.rule id) state)).2 :=
    bracketing.conduct.repeatTest (fun part _ => called part)
      (grammar.testOf_isNoProcedure free id) _
  have inside : Rel (state.notify (Builder.opened (grammar.rule id).token))
      (repeatTest grammar call (grammar.rule id) (openRule (grammar.rule id) state)).2 :=
    bracketing.precede evaluated rfl fun kept => kept
  unfold Packrat.matchAfresh
  simp only
  generalize repeatTest grammar call (grammar.rule id) (openRule (grammar.rule id) state) = result
    at inside
  obtain ⟨outcome, ended⟩ := result
  have stopped : Rel state (endStopped state ended) :=
    bracketing.proceed (bracketing.bracket (grammar.rule id).token .failed inside) rfl
      fun kept => kept
  match outcome with
  | .matched => exact bracketing.endMatched id inside
  | .failed .mismatch => exact bracketing.recover (bracketing.endMismatched id inside) _
  | .failed .callLimit => exact stopped
  | .failed .divergence => exact stopped

/-- Calling a rule keeps the relation if calling its parts does. -/
theorem callRule (free : grammar.isProcedureFree = true)
    (called : ∀ id state, Rel state (call id state).2) (id : RuleId) (state : State β) :
    Rel state (Packrat.callRule grammar call id state).2 := by
  unfold Packrat.callRule
  split
  · exact bracketing.refl state
  · have lookedUp : Rel state (State.lookup { state with calls := state.calls + 1 } id).2 := by
      unfold State.lookup
      split <;> exact bracketing.aside rfl fun kept => kept
    simp only
    split
    · rename_i result next found
      rw [found] at lookedUp
      refine bracketing.trans lookedUp (bracketing.precede (bracketing.replay _ result _) rfl ?_)
      exact fun kept => (List.mem_cons.mp kept).resolve_left nofun
    · rename_i next found
      rw [found] at lookedUp
      refine bracketing.trans lookedUp
        (bracketing.precede (bracketing.matchAfresh free called id _) rfl ?_)
      exact fun kept => (List.mem_cons.mp kept).resolve_left nofun

/-- Matching a rule keeps the relation, to whatever depth rules may call each other. -/
theorem descend (free : grammar.isProcedureFree = true) (depth : Nat) (id : RuleId)
    (state : State β) : Rel state (Packrat.descend grammar depth id state).2 := by
  induction depth generalizing id state with
  | zero => exact bracketing.refl state
  | succ depth ih => exact bracketing.callRule free ih id state

/-- A pass keeps the relation. -/
theorem pass (free : grammar.isProcedureFree = true) (state : State β) :
    Rel state (Packrat.pass grammar state).2 := by
  unfold Packrat.pass matchRule
  exact bracketing.precede (bracketing.descend free _ _ _) rfl id

/-- Passes keep the relation, however they end. -/
theorem runPasses (free : grammar.isProcedureFree = true) (budget : Nat) (state : State β) :
    Rel state (Packrat.runPasses grammar budget state).2 := by
  induction budget generalizing state with
  | zero =>
    unfold Packrat.runPasses
    split <;> exact bracketing.refl state
  | succ budget ih =>
    have passed := bracketing.pass free state
    unfold Packrat.runPasses
    split
    · exact bracketing.refl state
    · simp only
      split
      · exact bracketing.refl state
      · rename_i reason next _ ended
        rw [ended] at passed
        exact bracketing.proceed passed rfl fun kept => (List.mem_cons.mp kept).resolve_left nofun
      · rename_i next ended
        rw [ended] at passed
        split
        · exact bracketing.proceed passed rfl fun kept =>
            (List.mem_cons.mp kept).resolve_left nofun
        · exact bracketing.trans passed (ih next)

end Bracketing

/-! ## Transcripts -/

/-- A builder with a transcript of what it is told beside it. -/
structure Overheard (β : Type) where
  /-- The builder. -/
  builder : β
  /-- What it was told. -/
  heard : Transcript

variable {β : Type} [Builder β]

instance : Builder (Overheard β) where
  begin source both := ⟨Builder.begin source both.builder, Builder.begin source both.heard⟩
  opened token both := ⟨Builder.opened token both.builder, Builder.opened token both.heard⟩
  produced production both :=
    ⟨Builder.produced production both.builder, Builder.produced production both.heard⟩
  failed both := ⟨Builder.failed both.builder, Builder.failed both.heard⟩
  restored nodes both := ⟨Builder.restored nodes both.builder, Builder.restored nodes both.heard⟩
  collected both := Builder.collected both.builder
  cutBack count both := { both with builder := Builder.cutBack count both.builder }
  contributed since both := Builder.contributed since both.builder
  finish both := { both with builder := Builder.finish both.builder }
  reset both := { both with builder := Builder.reset both.builder }
  complaint both := Builder.complaint both.builder

namespace Overheard

/-- A builder that is overheard is told the same. -/
theorem isView_builder : IsView (Overheard.builder : Overheard β → β) :=
  ⟨fun _ _ => rfl, fun _ _ => rfl, fun _ => rfl, fun _ _ => rfl, fun _ _ => rfl⟩

/-- A builder that is overheard tells the same of what a rule contributed. -/
theorem candid_builder : Candid (Overheard.builder : Overheard β → β) :=
  fun _ _ => rfl

/-- From one state to another the transcript grows by notifications that nest. -/
def Hears (state next : State (Overheard β)) : Prop :=
  ∃ events, Balanced events ∧
    next.builder.heard.received = events.reverse ++ state.builder.heard.received

/-- What a transcript hears is kept by a rule that starts and ends. -/
theorem bracketing_hears : Bracketing (Hears (β := β)) where
  trans := by
    rintro first second third ⟨earlier, nestEarlier, grown⟩ ⟨later, nestLater, grownMore⟩
    refine ⟨earlier ++ later, nestEarlier.append nestLater, ?_⟩
    rw [grownMore, grown, List.reverse_append, List.append_assoc]
  aside same _ := ⟨[], .nothing, by rw [same, List.reverse_nil, List.nil_append]⟩
  cutBack state count := ⟨[], .nothing, rfl⟩
  bracket := by
    rintro state next token ending ⟨inside, nestInside, grown⟩
    refine ⟨.opened token :: inside ++ [ending.notification], nestInside.around token ending, ?_⟩
    have opened : (state.notify (Builder.opened token)).builder.heard.received =
        .opened token :: state.builder.heard.received := rfl
    have closed : (next.close ending.tell).builder.heard.received =
        ending.notification :: next.builder.heard.received := by
      cases ending <;> rfl
    rw [closed, grown, opened]
    simp

end Overheard

/-- The state with its builder overheard. -/
def State.overheard (state : State β) (heard : Transcript) : State (Overheard β) where
  scanner := state.scanner
  builder := ⟨state.builder, heard⟩
  errors := state.errors
  mark := state.mark
  attempts := state.attempts
  journal := state.journal
  negations := state.negations
  calls := state.calls
  callLimit := state.callLimit
  cache := state.cache
  remarks := state.remarks
  probes := state.probes

variable [Procedures P]

/-- Matching a rule tells the builder of nested rules, and being overheard changes nothing. -/
theorem descend_overheard {grammar : Grammar P} (free : grammar.isProcedureFree = true)
    (depth : Nat) (id : RuleId) (state : State β) (heard : Transcript) :
    ∃ events, Balanced events ∧
      (descend grammar depth id (state.overheard heard)).1 = (descend grammar depth id state).1 ∧
      (descend grammar depth id (state.overheard heard)).2.builder =
        ⟨(descend grammar depth id state).2.builder, ⟨events.reverse ++ heard.received⟩⟩ := by
  obtain ⟨events, nest, grown⟩ :=
    Overheard.bracketing_hears.descend free depth id (state.overheard heard)
  have seen : Seen Overheard.builder (state.overheard heard) state :=
    ⟨state.remarks, state.probes, rfl⟩
  have same := Overheard.isView_builder.descend (fun _ : True => Overheard.candid_builder) free
    depth id seen (.inr trivial)
  generalize descend grammar depth id (state.overheard heard) = left at grown same
  generalize descend grammar depth id state = right at same
  obtain ⟨outcome, ⟨_, _, rfl⟩, -⟩ := same
  refine ⟨events, nest, rfl, ?_⟩
  change Overheard.mk _ _ = _
  exact congrArg (Overheard.mk _) (congrArg Transcript.mk grown)

/-! ## Node stacks -/

namespace NodeStack

/-- A stack with an open rule has nothing to say against closing it. -/
theorem complaint_of_depth {stack : NodeStack} (opened : 1 < stack.depth) :
    Builder.complaint stack = none := by
  have inhabited : stack.inner.isEmpty = false := by
    cases inner : stack.inner with
    | nil =>
      rw [depth, inner] at opened
      contradiction
    | cons frame outer => rfl
  change (if stack.inner.isEmpty then some Remark.rootFrameKept else none) = none
  rw [inhabited]
  rfl

/-- Changing the innermost frame leaves the depth as it is. -/
theorem depth_modifyTop (stack : NodeStack) (change : Frame → Frame) :
    (stack.modifyTop change).depth = stack.depth := by
  unfold modifyTop depth
  cases stack.inner <;> rfl

/-- The end of a rule takes one frame off, unless it is the root frame. -/
theorem depth_tell (ending : Ending) (stack : NodeStack) :
    (ending.tell stack).depth = stack.pop.2.depth := by
  cases ending with
  | failed => rfl
  | restored nodes => exact depth_modifyTop _ _
  | produced production =>
    cases production with
    | node token annotations span => exact depth_modifyTop _ _
    | transparent => exact depth_modifyTop _ _
    | discarded => rfl

/-- The end of a rule takes one frame off a stack with an open rule. -/
theorem depth_tell_of_depth {stack : NodeStack} (opened : 1 < stack.depth) (ending : Ending) :
    (ending.tell stack).depth + 1 = stack.depth := by
  rw [depth_tell, pop]
  unfold depth at opened ⊢
  cases inner : stack.inner with
  | nil =>
    rw [inner] at opened
    contradiction
  | cons frame outer => rfl

/-- The depth is the same in both states, and the root frame was not to be closed in between. -/
structure Level (state next : State NodeStack) : Prop where
  /-- There are as many frames. -/
  depth : next.builder.depth = state.builder.depth
  /-- Nothing more was said about the root frame. -/
  silent : .rootFrameKept ∈ next.remarks → .rootFrameKept ∈ state.remarks

/-- The depth of a node stack is kept by a rule that starts and ends. -/
theorem bracketing_level : Bracketing Level where
  trans first second :=
    ⟨second.depth.trans first.depth, fun kept => first.silent (second.silent kept)⟩
  aside same silent := ⟨congrArg NodeStack.depth same, silent⟩
  cutBack state count := ⟨depth_modifyTop _ _, id⟩
  bracket := by
    intro state next token ending inside
    have deeper : next.builder.depth = state.builder.depth + 1 := inside.depth
    have opened : 1 < next.builder.depth := by
      rw [deeper]
      exact Nat.succ_lt_succ (Nat.succ_pos _)
    have closed := depth_tell_of_depth opened ending
    refine ⟨?_, fun kept => inside.silent ?_⟩
    · change (ending.tell next.builder).depth = state.builder.depth
      omega
    · have remarks : (next.close ending.tell).remarks = next.remarks := by
        rw [State.close, complaint_of_depth opened]
        rfl
      rwa [remarks] at kept

end NodeStack

omit [Procedures P] in
/-- The start of a build has one frame, and nothing was said about it. -/
theorem Constructor.level_of_start {constructor : Constructor P} {source : Source}
    {state : State NodeStack} (level : NodeStack.Level (constructor.start source) state) :
    state.builder.depth = 1 ∧ .rootFrameKept ∉ state.remarks :=
  ⟨level.depth, fun kept => absurd (level.silent kept) List.not_mem_nil⟩

/-- A stack of one frame gives no error about its depth. -/
theorem generate_ne_unknown {stack : NodeStack} (depth : stack.depth = 1)
    (errors : List Diagnostic) (failure : Option Diagnostic) (message : String) :
    (generate stack errors failure).1 ≠ .error (.unknown message) := by
  unfold generate
  rw [if_neg (not_not_intro depth)]
  simp only
  split
  · nofun
  · split <;> nofun

/-- Notifications nest under a procedure-free grammar. Matching a rule, in any state, to any depth
of calls and with any builder, tells the builder of rules that start and end like brackets, whatever
the outcome; keeping a transcript of it changes nothing. So in a build, whatever the settings, the
node stack has one frame before and after every pass, its root frame is never to be closed, and the
build never ends with an unknown error. -/
theorem notifications_nest {grammar : Grammar P} (free : grammar.isProcedureFree = true) :
    (∀ (β : Type) [Builder β] (depth : Nat) (id : RuleId) (state : State β) (heard : Transcript),
      ∃ events, Balanced events ∧
        (descend grammar depth id (state.overheard heard)).1 =
          (descend grammar depth id state).1 ∧
        (descend grammar depth id (state.overheard heard)).2.builder =
          ⟨(descend grammar depth id state).2.builder, ⟨events.reverse ++ heard.received⟩⟩) ∧
    ∀ (config : Config) (source : Source),
      (∀ begun, Relation.ReflTransGen (Leads grammar)
          ((Constructor.make grammar config).start source) begun →
        begun.builder.depth = 1 ∧ (pass grammar begun).2.builder.depth = 1) ∧
      .rootFrameKept ∉ ((Constructor.make grammar config).construct source).remarks ∧
      ∀ message,
        ((Constructor.make grammar config).build source).1.result ≠ .error (.unknown message) := by
  refine ⟨fun β _ => descend_overheard free, fun config source => ?_⟩
  have ended := Constructor.level_of_start (NodeStack.bracketing_level.runPasses free
    ((Constructor.make grammar config).start source).loopBound
    ((Constructor.make grammar config).start source))
  refine ⟨fun begun reached => ?_, fun kept => ?_, generate_ne_unknown ended.1 _ _⟩
  · have level : NodeStack.Level ((Constructor.make grammar config).start source) begun := by
      induction reached with
      | refl => exact NodeStack.bracketing_level.refl _
      | @tail middle next earlier leads ih =>
        have passed := NodeStack.bracketing_level.pass free middle
        rw [leads.matched] at passed
        exact NodeStack.bracketing_level.trans ih passed
    have passed := NodeStack.bracketing_level.trans level
      (NodeStack.bracketing_level.pass free begun)
    exact ⟨(Constructor.level_of_start level).1, (Constructor.level_of_start passed).1⟩
  · rcases List.mem_append.mp kept with remarked | summarised
    · exact ended.2 (List.mem_reverse.mp remarked)
    · obtain ⟨cache, -, same⟩ := List.mem_map.mp summarised
      exact absurd same nofun

/-- A shout, overheard, that a call limit cuts off behind its letter. -/
def Grammar.cutShout : Outcome × State (Overheard NodeStack) :=
  descend .shouts 9 5 ((State.initial ⟨['a', '!']⟩
    ((Config.default.withCache 1 2).withCallLimit 4) NodeStack.initial).overheard .initial)

/-- When a shout is cut off, the builder has been told of four rules that start and of their ends.
-/
theorem notifications_nest_shouts :
    Grammar.cutShout.1 = .failed .callLimit ∧
    Grammar.cutShout.2.builder.heard.notifications.length = 8 ∧
    Balanced Grammar.cutShout.2.builder.heard.notifications ∧
    .rootFrameKept ∉ ((Constructor.make .shouts
      ((Config.default.withCache 1 2).withCallLimit 4)).construct ⟨['a', '!']⟩).remarks := by
  obtain ⟨nest, builds⟩ := notifications_nest Grammar.isProcedureFree_shouts
  obtain ⟨events, balanced, -, told⟩ := nest NodeStack 9 5
    (State.initial ⟨['a', '!']⟩ ((Config.default.withCache 1 2).withCallLimit 4) NodeStack.initial)
    .initial
  refine ⟨by decide +kernel, by decide +kernel, ?_, (builds _ _).2.1⟩
  rw [Grammar.cutShout, told, Transcript.notifications]
  change Balanced (events.reverse ++ []).reverse
  rwa [List.append_nil, List.reverse_reverse]

end Packrat
