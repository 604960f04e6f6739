import Packrat.Unicode.Combining
import Packrat.Unicode.Printable

/-!
# Quoted text

Texts and characters are shown between quotes. Inside them the backslash, the quote that delimits,
and a few controls have short escapes; combining characters and characters without a visible shape
are given by their code point; everything else stands for itself.
-/

namespace Packrat.Text

/-- The digits of a number in base sixteen, lower case and without padding. -/
def hexadecimal (number : Nat) : List Char :=
  Nat.toDigits 16 number

/-- A character given by its code point in braces. -/
def codePoint (c : Char) : List Char :=
  ['\\', 'u', '\x7b'] ++ hexadecimal c.toNat ++ ['\x7d']

/-- How a character is written between two `delimiter` quotes. -/
def escaped (delimiter : Char) (c : Char) : List Char :=
  if c = '\x00' then ['\\', '0']
  else if c = '\t' then ['\\', 't']
  else if c = '\r' then ['\\', 'r']
  else if c = '\n' then ['\\', 'n']
  else if c = '\\' then ['\\', '\\']
  else if c = delimiter then ['\\', c]
  else if Unicode.isCombining c then codePoint c
  else if Unicode.isPrintable c then [c]
  else codePoint c

/-- A text between double quotes. -/
def quoted (text : String) : String :=
  String.ofList (['"'] ++ text.toList.flatMap (escaped '"') ++ ['"'])

/-- A character between single quotes. -/
def quotedChar (c : Char) : String :=
  String.ofList (['\x27'] ++ escaped '\x27' c ++ ['\x27'])

end Packrat.Text
