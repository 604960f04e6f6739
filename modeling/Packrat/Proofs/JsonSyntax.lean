import Packrat.Unicode.Blank

/-!
# JSON texts

The texts that RFC 8259 calls JSON, symbol by symbol as it gives them, with every blank character
allowed where it allows four. Structural characters bring the blanks around them along. A text is a
list of characters here, and every symbol a property of texts that does not mention how they are
read.
-/

namespace Packrat.Json

/-! ## Blanks and structural characters -/

/-- Any number of blanks. -/
def AreBlank (text : List Char) : Prop :=
  ∀ c ∈ text, Unicode.isBlank c = true

/-- A structural character with blanks around it. -/
def IsStructural (mark : Char) (text : List Char) : Prop :=
  ∃ before after, AreBlank before ∧ AreBlank after ∧ text = before ++ mark :: after

/-! ## Numbers -/

/-- Any number of digits. -/
def AreDigits (text : List Char) : Prop :=
  ∀ c ∈ text, c.isDigit = true

/-- Digits, at least one. -/
def IsNumeral (text : List Char) : Prop :=
  text ≠ [] ∧ AreDigits text

/-- An integer without a sign: zero, or digits of which the first is not zero. -/
def IsInteger (text : List Char) : Prop :=
  text = ['0'] ∨
    ∃ first later, '1' ≤ first ∧ first ≤ '9' ∧ AreDigits later ∧ text = first :: later

/-- A decimal point and digits. -/
def IsFraction (text : List Char) : Prop :=
  ∃ digits, IsNumeral digits ∧ text = '.' :: digits

/-- An exponent, with or without a sign. -/
def IsExponent (text : List Char) : Prop :=
  ∃ mark sign digits, mark ∈ ['e', 'E'] ∧ sign ∈ [[], ['-'], ['+']] ∧ IsNumeral digits ∧
    text = mark :: (sign ++ digits)

/-- A number. -/
def IsNumber (text : List Char) : Prop :=
  ∃ sign integer fraction exponent, sign ∈ [[], ['-']] ∧ IsInteger integer ∧
    (fraction = [] ∨ IsFraction fraction) ∧ (exponent = [] ∨ IsExponent exponent) ∧
    text = sign ++ (integer ++ (fraction ++ exponent))

/-! ## Strings -/

/-- A character that stands for itself in a string. -/
def IsUnescaped (c : Char) : Prop :=
  0x20 ≤ c.toNat ∧ c.toNat ≤ 0x21 ∨ 0x23 ≤ c.toNat ∧ c.toNat ≤ 0x5B ∨
    0x5D ≤ c.toNat ∧ c.toNat ≤ 0x10FFFF

/-- A hexadecimal digit. -/
def IsHexDigit (c : Char) : Prop :=
  c.isDigit = true ∨ 'A' ≤ c ∧ c ≤ 'F' ∨ 'a' ≤ c ∧ c ≤ 'f'

/-- A character of a string as it is written. -/
inductive IsCharacter : List Char → Prop
  /-- A character that stands for itself. -/
  | unescaped {c : Char} (plain : IsUnescaped c) : IsCharacter [c]
  /-- A character with a short escape. -/
  | escaped {c : Char} (known : c ∈ ['"', '\\', '/', 'b', 'f', 'n', 'r', 't']) :
      IsCharacter ['\\', c]
  /-- A character given by four hexadecimal digits. -/
  | numbered {first second third fourth : Char} (one : IsHexDigit first) (two : IsHexDigit second)
      (three : IsHexDigit third) (four : IsHexDigit fourth) :
      IsCharacter ['\\', 'u', first, second, third, fourth]

/-- A string: characters between quotation marks. -/
def IsString (text : List Char) : Prop :=
  ∃ characters : List (List Char), (∀ character ∈ characters, IsCharacter character) ∧
    text = '"' :: (characters.flatten ++ ['"'])

/-! ## Values -/

/-- What may stand between brackets with commas in between. -/
inductive Element where
  /-- A value of an array. -/
  | value
  /-- A member of an object. -/
  | member

mutual
/-- A text is a value, or a member of an object. -/
inductive IsElement : Element → List Char → Prop
  /-- The literal `false`. -/
  | false : IsElement .value ['f', 'a', 'l', 's', 'e']
  /-- The literal `null`. -/
  | null : IsElement .value ['n', 'u', 'l', 'l']
  /-- The literal `true`. -/
  | true : IsElement .value ['t', 'r', 'u', 'e']
  /-- An object: members between braces. -/
  | object {opening members closing : List Char} (opens : IsStructural '\x7b' opening)
      (listed : IsListing .member members) (closes : IsStructural '\x7d' closing) :
      IsElement .value (opening ++ (members ++ closing))
  /-- An array: values between brackets. -/
  | array {opening values closing : List Char} (opens : IsStructural '[' opening)
      (listed : IsListing .value values) (closes : IsStructural ']' closing) :
      IsElement .value (opening ++ (values ++ closing))
  /-- A number. -/
  | number {text : List Char} (number : IsNumber text) : IsElement .value text
  /-- A string. -/
  | string {text : List Char} (string : IsString text) : IsElement .value text
  /-- A member: a name and a value with a colon in between. -/
  | member {name colon value : List Char} (named : IsString name)
      (separates : IsStructural ':' colon) (valued : IsElement .value value) :
      IsElement .member (name ++ (colon ++ value))

/-- Elements with commas in between, if there are any. -/
inductive IsListing : Element → List Char → Prop
  /-- There are none. -/
  | none {element : Element} : IsListing element []
  /-- There are some. -/
  | some {element : Element} {text : List Char} (separated : IsSeparated element text) :
      IsListing element text

/-- One or more elements with commas in between. -/
inductive IsSeparated : Element → List Char → Prop
  /-- There is one element. -/
  | one {element : Element} {text : List Char} (only : IsElement element text) :
      IsSeparated element text
  /-- There are more. -/
  | more {element : Element} {first comma later : List Char} (leads : IsElement element first)
      (separates : IsStructural ',' comma) (follows : IsSeparated element later) :
      IsSeparated element (first ++ (comma ++ later))
end

/-- A JSON text: a value with blanks around it. -/
def IsText (text : List Char) : Prop :=
  ∃ before value after, AreBlank before ∧ IsElement .value value ∧ AreBlank after ∧
    text = before ++ (value ++ after)

end Packrat.Json
