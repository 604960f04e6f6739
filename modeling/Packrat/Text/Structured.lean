import Packrat.Span
import Packrat.Text.Quoted

/-!
# Structured text

The inspection form of a value spells its constructor and the inspection forms of its parts. These
are the shapes such a form is put together from.
-/

namespace Packrat.Text

/-- Texts joined by a comma and a blank. -/
def commaSeparated (items : List String) : String :=
  ", ".intercalate items

/-- A constructor with unnamed parts in round brackets. -/
def tuple (constructor : String) (items : List String) : String :=
  constructor ++ "(" ++ commaSeparated items ++ ")"

/-- A constructor with named parts in braces. -/
def record (constructor : String) (fields : List (String × String)) : String :=
  constructor ++ " \x7b " ++
    commaSeparated (fields.map fun (name, value) => name ++ ": " ++ value) ++ " \x7d"

/-- A list in square brackets. -/
def sequence (items : List String) : String :=
  "[" ++ commaSeparated items ++ "]"

/-- A map in braces, key before value. -/
def mapping (entries : List (String × String)) : String :=
  "\x7b" ++ commaSeparated (entries.map fun (key, value) => key ++ ": " ++ value) ++ "\x7d"

/-- A part that may be missing. -/
def optional : Option String → String
  | none => "None"
  | some value => tuple "Some" [value]

/-- A truth value. -/
def truth (value : Bool) : String :=
  if value then "true" else "false"

/-- A number. -/
def natural (value : Nat) : String :=
  toString value

end Packrat.Text
