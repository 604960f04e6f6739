import Packrat.Text.Structured
import Packrat.Unicode.Alphabetic
import Packrat.Unicode.Blank
import Packrat.Unicode.Numeric

/-!
# Character sets

Named classes of characters, sets given by their members, and unions of sets.
-/

namespace Packrat

/-- A set of characters. -/
inductive CharacterSet where
  /-- Alphabetic characters. -/
  | letters
  /-- The ten decimal digits. -/
  | decimalDigits
  /-- Alphabetic and numeric characters. -/
  | alphanumerics
  /-- Blank characters that end no line. -/
  | whitespaces
  /-- Blank characters. -/
  | whitespacesAndNewlines
  /-- Characters that end a line. -/
  | newlines
  /-- The punctuation marks of the seven-bit set. -/
  | punctuation
  /-- Every character of a text. -/
  | custom (members : String)
  /-- Every character of some set. -/
  | union (sets : List CharacterSet)
deriving Repr

namespace CharacterSet

/-- Whether a character ends a line. -/
def isLineEnd (c : Char) : Bool :=
  ['\n', '\r', '\x0b', '\x0c', '\u0085', '\u2028', '\u2029'].contains c

/-- Whether a character is a visible character of the seven-bit set and neither letter nor digit. -/
def isPunctuation (c : Char) : Bool :=
  '!' ≤ c && c ≤ '~' && !c.isAlphanum

mutual
/-- Whether a character belongs to a set. -/
def contains : CharacterSet → Char → Bool
  | letters, c => Unicode.isAlphabetic c
  | decimalDigits, c => c.isDigit
  | alphanumerics, c => Unicode.isAlphanumeric c
  | whitespaces, c => Unicode.isBlank c && !isLineEnd c
  | whitespacesAndNewlines, c => Unicode.isBlank c
  | newlines, c => isLineEnd c
  | punctuation, c => isPunctuation c
  | custom members, c => members.toList.contains c
  | union sets, c => anyContains sets c

/-- Whether a character belongs to one of several sets. -/
def anyContains : List CharacterSet → Char → Bool
  | [], _ => false
  | set :: sets, c => contains set c || anyContains sets c
end

mutual
/-- The written form of a set. -/
def text : CharacterSet → String
  | letters => ".letters"
  | decimalDigits => ".decimalDigits"
  | alphanumerics => ".alphanumerics"
  | whitespaces => ".whitespaces"
  | whitespacesAndNewlines => ".whitespacesAndNewlines"
  | newlines => ".newlines"
  | punctuation => ".punctuation"
  | custom members => "[" ++ Text.quoted members ++ "]"
  | union sets => "(" ++ " | ".intercalate (texts sets) ++ ")"

/-- The written forms of several sets. -/
def texts : List CharacterSet → List String
  | [] => []
  | set :: sets => text set :: texts sets
end

mutual
/-- The inspection form of a set. -/
def inspect : CharacterSet → String
  | letters => "Letters"
  | decimalDigits => "DecimalDigits"
  | alphanumerics => "Alphanumerics"
  | whitespaces => "Whitespaces"
  | whitespacesAndNewlines => "WhitespacesAndNewlines"
  | newlines => "Newlines"
  | punctuation => "Punctuation"
  | custom members => Text.tuple "Custom" [Text.quoted members]
  | union sets => Text.tuple "Union" [Text.sequence (inspectAll sets)]

/-- The inspection forms of several sets. -/
def inspectAll : List CharacterSet → List String
  | [] => []
  | set :: sets => inspect set :: inspectAll sets
end

end CharacterSet

end Packrat
