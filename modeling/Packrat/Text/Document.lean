/-!
# Documents

A document is nested data of numbers, texts, lists and records, written over several lines with two
blanks of indentation for every level. Empty lists and records stay on one line.
-/

namespace Packrat.Text

/-- Nested data. -/
inductive Document where
  /-- A natural number. -/
  | number (value : Nat)
  /-- A text. -/
  | text (value : String)
  /-- A list. -/
  | list (items : List Document)
  /-- A record, its fields in order. -/
  | record (fields : List (String × Document))

namespace Document

/-- The line break before an item at a level of nesting. -/
def lineBreak (level : Nat) : String :=
  "\n" ++ String.ofList (List.replicate (2 * level) ' ')

/-- The hexadecimal digit of a number below sixteen. -/
def hexDigit (number : Nat) : Char :=
  Nat.digitChar number

/-- How a character is written inside a text: quotes, backslashes and controls are escaped. -/
def escape (c : Char) : List Char :=
  if c = '"' then ['\\', '"']
  else if c = '\\' then ['\\', '\\']
  else if c = '\x08' then ['\\', 'b']
  else if c = '\x0c' then ['\\', 'f']
  else if c = '\n' then ['\\', 'n']
  else if c = '\r' then ['\\', 'r']
  else if c = '\t' then ['\\', 't']
  else if c.toNat < 32 then
    ['\\', 'u', '0', '0', hexDigit (c.toNat / 16), hexDigit (c.toNat % 16)]
  else [c]

/-- A text in double quotes. -/
def quote (value : String) : String :=
  String.ofList (['"'] ++ value.toList.flatMap escape ++ ['"'])

/-- Items at a level between an opening and a closing bracket. -/
def bracketed (opening closing : String) (level : Nat) (items : List String) : String :=
  if items.isEmpty then opening ++ closing
  else
    let lead := lineBreak (level + 1)
    opening ++ lead ++ ("," ++ lead).intercalate items ++ lineBreak level ++ closing

mutual
/-- The written form of a document that stands at a level of nesting. -/
def pretty (level : Nat) : Document → String
  | .number value => toString value
  | .text value => quote value
  | .list items => bracketed "[" "]" level (prettyItems (level + 1) items)
  | .record fields => bracketed "\x7b" "\x7d" level (prettyFields (level + 1) fields)

/-- The written forms of the items of a list. -/
def prettyItems (level : Nat) : List Document → List String
  | [] => []
  | item :: items => pretty level item :: prettyItems level items

/-- The written forms of the fields of a record. -/
def prettyFields (level : Nat) : List (String × Document) → List String
  | [] => []
  | (name, value) :: fields =>
    (quote name ++ ": " ++ pretty level value) :: prettyFields level fields
end

end Document

end Packrat.Text
