import Packrat.Builder.Emitter
import Packrat.Engine.Passes

/-!
# Token streams

A token stream gives the top-level nodes of a source one by one and runs passes only as they are
asked for. A pass that fails, or that takes nothing, is recorded as a diagnostic and ends the
stream, after the nodes it produced.
-/

namespace Packrat

/-- A source that is being matched as its nodes are asked for. -/
structure TokenStream (P : Type := Program) where
  /-- The grammar. -/
  grammar : Grammar P
  /-- The state of matching. -/
  state : State Emitter
  /-- The nodes that are there and have not been asked for. -/
  buffered : List Node
  /-- Whether no further pass is run. -/
  stopped : Bool

namespace TokenStream

variable {P : Type}

/-- The stream at the start of a source. -/
def start (grammar : Grammar P) (config : Config) (source : Source) : TokenStream P :=
  ⟨grammar, .initial source config .initial, [], false⟩

/-- The diagnostics so far. -/
def errors (stream : TokenStream P) : List Diagnostic :=
  stream.state.errors

/-- The position of the cursor. -/
def position (stream : TokenStream P) : Nat :=
  stream.state.position

/-- Whether the whole source was used up without a diagnostic. -/
def reachedEnd (stream : TokenStream P) : Bool :=
  stream.state.scanner.atEnd && stream.errors.isEmpty

/-- The stream after a diagnostic that ends it. -/
def stopWith (stream : TokenStream P) (diagnostic : Diagnostic) (remark : Remark) : TokenStream P :=
  { stream with state := (stream.state.remark remark).record diagnostic, stopped := true }

/-- The inspection form of a stream. -/
def inspect (stream : TokenStream P) : String :=
  Text.record "TokenStream"
    [("position", Text.natural stream.position),
      ("buffered", Text.sequence (stream.buffered.map Node.inspect)),
      ("errors", Text.sequence (stream.errors.map Diagnostic.inspect))]

variable [Procedures P]

/-- The stream after one more pass. Nothing is kept of a pass in which rules called each other
without end: such a pass never returns, and the stream that is stopped here only marks that. -/
def advance (stream : TokenStream P) : TokenStream P :=
  let origin := stream.position
  let fresh := stream.state.notify fun emitter =>
    Builder.begin stream.state.source (Builder.reset emitter)
  match pass stream.grammar fresh with
  | (.failed .divergence, _) =>
    let diagnostic := stream.state.diagnose .divergence
    stream.stopWith diagnostic (.streamFailed origin diagnostic.message)
  | (.failed reason, ended) =>
    let diagnostic := ended.diagnose reason
    { stream with state := ended }.stopWith diagnostic (.streamFailed origin diagnostic.message)
  | (.matched, ended) =>
    let moved : TokenStream P :=
      { stream with
        state := ended.notify fun emitter => { Builder.finish emitter with pending := [] }
        buffered := ended.builder.nodes }
    if ended.position = origin then
      moved.stopWith (ended.diagnose .mismatch) (.streamStalled origin)
    else moved

/-- The next node, if there is one, after at most `budget` passes. -/
def nextWithin : Nat → TokenStream P → Option Node × TokenStream P
  | budget, stream =>
    match stream.buffered with
    | node :: later => (some node, { stream with buffered := later })
    | [] =>
      if stream.stopped || stream.state.scanner.atEnd then (none, stream)
      else
        match budget with
        | 0 => (none, { stream with stopped := true })
        | budget + 1 => nextWithin budget stream.advance

/-- The next node, if there is one, and the stream behind it. -/
def next (stream : TokenStream P) : Option Node × TokenStream P :=
  nextWithin stream.state.loopBound stream

end TokenStream

end Packrat
