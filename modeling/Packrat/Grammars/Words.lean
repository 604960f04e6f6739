import Packrat.Grammar.Draft

/-!
# A grammar of words

Cuts a text into `word`, `number` and `punctuation` nodes and skips the blanks between them.
-/

namespace Packrat.Words

/-- A run of letters. -/
def letters : Rule :=
  (Rule.set .letters).oneOrMore

/-- A run of digits. -/
def digits : Rule :=
  (Rule.set .decimalDigits).oneOrMore

/-- Runs of letters with single apostrophes or hyphens between them. -/
def word : Rule :=
  .sequence [letters, (Rule.sequence [.set (.custom "'-"), letters]).zeroOrMore]

/-- A run of digits, and perhaps a point and another. -/
def number : Rule :=
  .sequence [digits, (Rule.sequence [.literal ".", digits]).optional]

/-- The definitions and the root. -/
def draft : Draft where
  definitions :=
    [("word", word.token (.named "word")),
      ("number", number.token (.named "number")),
      ("punctuation", (Rule.set .punctuation).token (.named "punctuation")),
      ("space", ((Rule.set .whitespacesAndNewlines).oneOrMore).skip)]
  root :=
    some (.choice
      [.reference "word", .reference "number", .reference "punctuation", .reference "space"])

/-- The grammar of words. -/
def grammar : Except GrammarError Grammar :=
  draft.build

end Packrat.Words
