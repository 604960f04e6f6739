import Packrat.Builder.Basic
import Packrat.Unicode.Blank

/-!
# Transcripts

A transcript is the builder that only writes down what it is told.
-/

namespace Packrat

/-- A notification as it was received. -/
inductive Notification where
  /-- Matching of a source of some length starts. -/
  | begun (length : Nat)
  /-- A rule starts. -/
  | opened (token : Option Token)
  /-- The rule that started last matched. -/
  | produced (production : Production)
  /-- The rule that started last failed. -/
  | failed
  /-- The rule that started last brought back a number of nodes. -/
  | restored (count : Nat)
deriving DecidableEq, Repr

/-- A text without the blanks at its end. -/
def Text.withoutTrailingBlanks (text : String) : String :=
  String.ofList (text.toList.reverse.dropWhile Unicode.isBlank).reverse

/-- The written form of a notification. -/
def Notification.text : Notification → String
  | begun length => "will " ++ Text.natural length
  | opened none => "eval"
  | opened (some token) => "eval " ++ token.name
  | produced (.node token annotations span) =>
    Text.withoutTrailingBlanks
      (" ".intercalate (["node", token.name, span.text] ++ annotations.shownEntries))
  | produced .transparent => "transparent"
  | produced .discarded => "discarded"
  | failed => "failed"
  | restored count => "restored " ++ Text.natural count

/-- The notifications received so far, the last one first. -/
structure Transcript where
  /-- The notifications, the last one first. -/
  received : List Notification

namespace Transcript

/-- The transcript of nothing. -/
def initial : Transcript :=
  ⟨[]⟩

/-- The transcript with one more notification. -/
def note (transcript : Transcript) (notification : Notification) : Transcript :=
  ⟨notification :: transcript.received⟩

/-- The notifications in the order in which they were received. -/
def notifications (transcript : Transcript) : List Notification :=
  transcript.received.reverse

instance : Builder Transcript where
  begin source transcript := transcript.note (.begun source.length)
  opened token transcript := transcript.note (.opened token)
  produced production transcript := transcript.note (.produced production)
  failed transcript := transcript.note .failed
  restored nodes transcript := transcript.note (.restored nodes.length)

end Transcript

end Packrat
