import Packrat.Source

/-!
# Diagnostics

A diagnostic is a message about a span of a source. It can be shown under the line it points at.
-/

namespace Packrat

/-- A message about a span. -/
structure Diagnostic where
  /-- The span. -/
  span : Span
  /-- The message. -/
  message : String
deriving DecidableEq, Repr, Inhabited

namespace Diagnostic

/-- A text repeated some number of times. -/
def repeated (c : Char) (count : Nat) : String :=
  String.ofList (List.replicate count c)

/-- The line under a span, cut where the room on the source line ends: an open arrow for an empty
span, one mark for one character, two marks with a line between them for more. -/
def underline (span : Span) (room : Nat) : String :=
  match min (span.stop - span.start) (max room 1) with
  | 0 => "^---"
  | 1 => "^"
  | length + 2 => "^" ++ repeated '-' length ++ "^"

/-- The diagnostic shown under the line of the source that it points at. -/
def render (diagnostic : Diagnostic) (source : Source) : String :=
  let (line, column) := source.lineColumn diagnostic.span.start
  let text := source.lineText diagnostic.span.start
  let number := Text.natural line
  let margin := repeated ' ' number.length
  "\n".intercalate
    [margin ++ "--> " ++ number ++ ":" ++ Text.natural column,
      margin ++ " |",
      number ++ " | " ++ text,
      margin ++ " | " ++ repeated ' ' (column - 1) ++
        underline diagnostic.span (text.length + 1 - column),
      margin ++ " |",
      margin ++ " = " ++ diagnostic.message]

/-- The inspection form of a diagnostic. -/
def inspect (diagnostic : Diagnostic) : String :=
  Text.record "Diagnostic"
    [("range", diagnostic.span.text), ("message", Text.quoted diagnostic.message)]

/-- Names in a row, the last one after an "or". -/
def enumeration : List String → String
  | [] => ""
  | [only] => only
  | [first, second] => first ++ " or " ++ second
  | names => ", ".intercalate names.dropLast ++ ", or " ++ names.getLast?.getD ""

/-- What a failure says: which rules were wanted and which were not. -/
def failureMessage (expected unexpected : List String) : String :=
  match unexpected.isEmpty, expected.isEmpty with
  | false, false =>
    "unexpected " ++ enumeration unexpected ++ "; expected " ++ enumeration expected
  | false, true => "unexpected " ++ enumeration unexpected
  | true, false => "expected " ++ enumeration expected
  | true, true => "unknown parsing error"

end Diagnostic

end Packrat
