import Packrat.Grammar.Draft

/-!
# A grammar of JSON

Every value gives a `value` node around one of `object`, `array`, `string`, `number`, `bool` or
`null`. Blanks between tokens are skipped. A closing bracket or brace that is missing is recovered
from, and the tree gets an error node where it was expected.
-/

namespace Packrat.Json

/-- The pattern of a number. -/
def numberPattern : String :=
  "-?(?:0|[1-9][0-9]*)(?:\\.[0-9]+)?(?:[eE][+-]?[0-9]+)?"

/-- The pattern of a string. -/
def stringPattern : String :=
  "\"(?:[^\"\\\\\\x00-\\x1F]|\\\\(?:[\"\\\\/bfnrt]|u[0-9a-fA-F]\x7b4\x7d))*\""

/-- Blanks, if there are any. -/
def blanks : Rule :=
  (Rule.reference "ws").optional

/-- Any number of elements with commas between them. -/
def separated (element : String) : Rule :=
  (Rule.sequence
    [.reference element,
      (Rule.sequence [blanks, .literal ",", blanks, .reference element]).zeroOrMore]).optional

/-- Any number of elements with commas between them and brackets around. -/
def delimited (opening element closing : String) : Rule :=
  .sequence
    [.literal opening, blanks, separated element, blanks,
      ((Rule.literal closing).pin).error ("expected " ++ closing)]

/-- The definitions and the root, from the rules of numbers and strings. -/
def draft (number string : Rule) : Draft where
  definitions :=
    [("ws", ((Rule.set .whitespacesAndNewlines).oneOrMore).skip),
      ("null", (Rule.literal "null").token (.named "null")),
      ("bool", (Rule.choice [.literal "true", .literal "false"]).token (.named "bool")),
      ("number", number.token (.named "number")),
      ("string", string.token (.named "string")),
      ("pair",
        (Rule.sequence
          [.reference "string", blanks, .literal ":", blanks, .reference "value"]).token
          (.named "pair")),
      ("object", (delimited "\x7b" "pair" "\x7d").token (.named "object")),
      ("array", (delimited "[" "value" "]").token (.named "array")),
      ("value",
        (Rule.choice
          [.reference "object", .reference "array", .reference "string", .reference "number",
            .reference "bool", .reference "null"]).token (.named "value")),
      ("EOI", .endOfInput)]
  root := some (.sequence [blanks, .reference "value", blanks, .reference "EOI"])

/-- The grammar of JSON. -/
def grammar : Except GrammarError Grammar := do
  let number ← Rule.pattern numberPattern
  let string ← Rule.pattern stringPattern
  (draft number string).build

end Packrat.Json
