import Packrat.Builder.Transcript
import Packrat.Construction
import Packrat.Grammars.Json
import Packrat.Grammars.Words
import Packrat.Proofs.CacheTransparency
import Packrat.Proofs.ParsingExpression
import Packrat.Proofs.TreeShape
import Packrat.TokenStream
import Packrat.Proofs.StreamNodes
import Packrat.Proofs.Termination
import Packrat.Proofs.ErrorNodes
import Packrat.Proofs.Conduct
import Packrat.Proofs.Nesting
import Packrat.Proofs.Bounds
import Packrat.Proofs.CallCount
import Packrat.Proofs.Lockstep
import Packrat.Proofs.CallLimit
import Packrat.Proofs.StreamTransparency
import Packrat.Proofs.LeafText
import Packrat.Proofs.Rendering
import Packrat.Proofs.DraftClass
import Packrat.Proofs.Validation
import Packrat.Proofs.Inlining
import Packrat.Proofs.Effect
import Packrat.Proofs.WholeMatch
import Packrat.Proofs.JsonSyntax
import Packrat.Proofs.PatternReading
import Packrat.Proofs.JsonTokens
import Packrat.Proofs.Taking
import Packrat.Proofs.JsonMeaning
import Packrat.Proofs.JsonReading
import Packrat.Proofs.JsonRepair
import Packrat.Proofs.BuildOutcome
import Packrat.Proofs.Revision
import Packrat.Proofs.MirroredSearch
import Packrat.Proofs.Wrapping
import Packrat.Proofs.LeftReferences
import Packrat.Proofs.Lookahead
import Packrat.Proofs.Tracking
import Packrat.Proofs.BoundedCache
import Packrat.Proofs.FailureMessages
import Packrat.Proofs.Trimming
import Packrat.Proofs.StreamProgress
import Packrat.Proofs.Retracing
import Packrat.Proofs.Emptiness
import Packrat.Proofs.WordTokens
import Packrat.Proofs.Coordinates
import Packrat.Proofs.LineText
import Packrat.Proofs.Cursor
import Packrat.Proofs.Capacity
