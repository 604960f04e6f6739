import Packrat.Pattern.Basic

/-!
# Lexemes of written patterns

A written pattern is cut into lexemes: single characters, classes, assertions, brackets, bars and
repetition marks. Escapes and bracketed classes are read here; nesting is left to the parser.
Text that is no lexeme of the supported syntax makes the whole pattern invalid.
-/

namespace Packrat

/-- A change of the ways in which a pattern is read. -/
structure FlagChange where
  /-- Letters are matched without regard to case. -/
  ignoreCase : Option Bool
  /-- The start and end marks also stand at lines. -/
  multiLine : Option Bool
  /-- The dot also takes a line feed. -/
  dotAll : Option Bool
  /-- The greed of repetition is swapped. -/
  swapGreed : Option Bool
deriving DecidableEq, Repr

namespace FlagChange

/-- The change that changes nothing. -/
def unchanged : FlagChange :=
  ⟨none, none, none, none⟩

/-- One flag letter, if it is not set yet. -/
def set (change : FlagChange) (letter : Char) (value : Bool) : Option FlagChange :=
  match letter with
  | 'i' => if change.ignoreCase.isSome then none else some { change with ignoreCase := some value }
  | 'm' => if change.multiLine.isSome then none else some { change with multiLine := some value }
  | 's' => if change.dotAll.isSome then none else some { change with dotAll := some value }
  | 'U' => if change.swapGreed.isSome then none else some { change with swapGreed := some value }
  | _ => none

end FlagChange

/-- A unit of a written pattern. -/
inductive Lexeme where
  /-- A character that stands for itself. -/
  | character (c : Char)
  /-- The dot. -/
  | dot
  /-- The start mark. -/
  | caret
  /-- The end mark. -/
  | dollar
  /-- A class of characters that no flag changes. -/
  | shorthand (cls : CharClass)
  /-- A bracketed class of characters, given by its members. -/
  | set (members : List CharClass) (negated : Bool)
  /-- An assertion that no flag changes. -/
  | assertion (condition : Assertion)
  /-- An opening bracket, with the flags that hold inside. -/
  | opening (numbered : Bool) (change : FlagChange)
  /-- A change of flags up to the end of the enclosing group. -/
  | flags (change : FlagChange)
  /-- A closing bracket. -/
  | closing
  /-- The bar between alternatives. -/
  | bar
  /-- Repetition of what stands before. -/
  | repetition (minimum : Nat) (maximum : Option Nat) (greedy : Bool)
deriving DecidableEq, Repr

namespace Lexeme

/-- What an escape stands for. -/
inductive Escape where
  /-- One character. -/
  | character (c : Char)
  /-- A class of characters. -/
  | shorthand (cls : CharClass)
  /-- An assertion. -/
  | assertion (condition : Assertion)

/-- The value of a hexadecimal digit. -/
def hexValue (c : Char) : Option Nat :=
  if '0' ≤ c && c ≤ '9' then some (c.toNat - '0'.toNat)
  else if 'a' ≤ c && c ≤ 'f' then some (c.toNat - 'a'.toNat + 10)
  else if 'A' ≤ c && c ≤ 'F' then some (c.toNat - 'A'.toNat + 10)
  else none

/-- The character whose code point is written in hexadecimal digits; there must be at least one. -/
def hexChar (digits : List Char) : Option Char := do
  if digits.isEmpty then none
  let values ← digits.mapM hexValue
  let point := values.foldl (fun total value => 16 * total + value) 0
  if point.isValidChar then some (Char.ofNat point) else none

/-- The code point after an escape letter: in braces, or as a fixed number of digits. -/
def hexEscape (width : Nat) : List Char → Option (Char × List Char)
  | '\x7b' :: rest =>
    match rest.dropWhile (· != '\x7d') with
    | _ :: later => (hexChar (rest.takeWhile (· != '\x7d'))).map (·, later)
    | [] => none
  | rest =>
    if rest.length < width then none
    else (hexChar (rest.take width)).map (·, rest.drop width)

/-- Whether a character that is no letter and no digit may be escaped to stand for itself. -/
def isEscapable (c : Char) : Bool :=
  c.toNat < 128 && !c.isAlphanum && c != '<' && c != '>'

/-- Reads what follows a backslash. -/
def escape : List Char → Option (Escape × List Char)
  | 'd' :: rest => some (.shorthand .digits, rest)
  | 'D' :: rest => some (.shorthand CharClass.digits.complement, rest)
  | 's' :: rest => some (.shorthand .blanks, rest)
  | 'S' :: rest => some (.shorthand CharClass.blanks.complement, rest)
  | 'w' :: rest => some (.shorthand .words, rest)
  | 'W' :: rest => some (.shorthand CharClass.words.complement, rest)
  | 'A' :: rest => some (.assertion .textStart, rest)
  | 'z' :: rest => some (.assertion .textEnd, rest)
  | 'b' :: rest => some (.assertion .wordBoundary, rest)
  | 'B' :: rest => some (.assertion .noWordBoundary, rest)
  | 'a' :: rest => some (.character '\x07', rest)
  | 'f' :: rest => some (.character '\x0c', rest)
  | 't' :: rest => some (.character '\t', rest)
  | 'n' :: rest => some (.character '\n', rest)
  | 'r' :: rest => some (.character '\r', rest)
  | 'v' :: rest => some (.character '\x0b', rest)
  | 'x' :: rest => (hexEscape 2 rest).map fun (c, later) => (.character c, later)
  | 'u' :: rest => (hexEscape 4 rest).map fun (c, later) => (.character c, later)
  | 'U' :: rest => (hexEscape 8 rest).map fun (c, later) => (.character c, later)
  | c :: rest => if isEscapable c then some (.character c, rest) else none
  | [] => none

/-- Reads one member of a bracketed class: a character or an escape. -/
def classMember : List Char → Option (Escape × List Char)
  | '\\' :: rest => escape rest
  | c :: rest => some (.character c, rest)
  | [] => none

/-- The class of a member that stands alone; an assertion cannot be a member. -/
def memberClass : Escape → Option CharClass
  | .character c => some (.single c)
  | .shorthand cls => some cls
  | .assertion _ => none

/-- The class of the characters between two members, which must be characters in order. -/
def rangeClass : Escape → Escape → Option CharClass
  | .character first, .character last => if first ≤ last then some (.between first last) else none
  | _, _ => none

/-- Reads one member or range of a bracketed class. A dash before the end of the class or before
another dash is no range. -/
def classRange (text : List Char) : Option (CharClass × List Char) := do
  let (first, rest) ← classMember text
  match rest with
  | '-' :: ']' :: _ => return (← memberClass first, rest)
  | '-' :: '-' :: _ => return (← memberClass first, rest)
  | '-' :: later =>
    let (last, rest) ← classMember later
    return (← rangeClass first last, rest)
  | _ => return (← memberClass first, rest)

/-- Reads the members of a bracketed class up to the bracket that ends it. A bracket that opens a
class inside the class and the doubled marks of set operations are not supported. -/
def classMembers : Nat → List CharClass → List Char → Option (List CharClass × List Char)
  | 0, _, _ => none
  | budget + 1, members, text =>
    match text with
    | [] => none
    | ']' :: rest => some (members.reverse, rest)
    | '[' :: _ => none
    | '&' :: '&' :: _ => none
    | '-' :: '-' :: _ => none
    | '~' :: '~' :: _ => none
    | _ => do
      let (member, rest) ← classRange text
      classMembers budget (member :: members) rest

/-- The dashes at the front of a class, and then a closing bracket if nothing stands before it,
count as members. -/
def classFront (text : List Char) : List CharClass × List Char :=
  let dashes := text.takeWhile (· == '-')
  match dashes, text.dropWhile (· == '-') with
  | [], ']' :: rest => ([.single ']'], rest)
  | _, rest => (dashes.map .single, rest)

/-- Reads a bracketed class after its opening bracket. -/
def bracketClass (text : List Char) : Option (Lexeme × List Char) := do
  let (negated, text) := match text with
    | '^' :: rest => (true, rest)
    | _ => (false, text)
  let (front, text) := classFront text
  let (members, rest) ← classMembers (text.length + 1) front.reverse text
  some (.set members negated, rest)

/-- Reads flag letters up to the mark that ends them. Letters after a dash are switched off, and at
least one must follow it. -/
def flagLetters (change : FlagChange) (value dangling any : Bool) :
    List Char → Option (Lexeme × List Char)
  | ':' :: rest => if dangling then none else some (.opening false change, rest)
  | ')' :: rest => if dangling || !any then none else some (.flags change, rest)
  | '-' :: rest => if value then flagLetters change false true true rest else none
  | letter :: rest =>
    match change.set letter value with
    | some changed => flagLetters changed value false true rest
    | none => none
  | [] => none

/-- Reads a decimal number with blanks around it. -/
def decimal (text : List Char) : Option (Nat × List Char) :=
  let text := text.dropWhile Unicode.isBlank
  let digits := text.takeWhile Char.isDigit
  let value := digits.foldl (fun total c => 10 * total + (c.toNat - '0'.toNat)) 0
  if digits.isEmpty || 4294967295 < value then none
  else some (value, (text.dropWhile Char.isDigit).dropWhile Unicode.isBlank)

/-- A repetition mark, made reluctant by a question mark behind it. -/
def withGreed (minimum : Nat) (maximum : Option Nat) : List Char → Lexeme × List Char
  | '?' :: rest => (.repetition minimum maximum false, rest)
  | rest => (.repetition minimum maximum true, rest)

/-- Reads the counts of a repetition after the opening brace. -/
def counts (text : List Char) : Option (Lexeme × List Char) := do
  let (minimum, rest) ← decimal text
  match rest with
  | '\x7d' :: later => some (withGreed minimum (some minimum) later)
  | ',' :: '\x7d' :: later => some (withGreed minimum none later)
  | ',' :: later =>
    let (maximum, rest) ← decimal later
    match rest with
    | '\x7d' :: later =>
      if minimum ≤ maximum then some (withGreed minimum (some maximum) later) else none
    | _ => none
  | _ => none

/-- Reads the first lexeme of a written pattern. -/
def next : List Char → Option (Lexeme × List Char)
  | [] => none
  | '\\' :: rest =>
    match escape rest with
    | some (.character c, later) => some (.character c, later)
    | some (.shorthand cls, later) => some (.shorthand cls, later)
    | some (.assertion condition, later) => some (.assertion condition, later)
    | none => none
  | '.' :: rest => some (.dot, rest)
  | '^' :: rest => some (.caret, rest)
  | '$' :: rest => some (.dollar, rest)
  | '|' :: rest => some (.bar, rest)
  | ')' :: rest => some (.closing, rest)
  | '(' :: '?' :: rest => flagLetters FlagChange.unchanged true false false rest
  | '(' :: rest => some (.opening true FlagChange.unchanged, rest)
  | '[' :: rest => bracketClass rest
  | '*' :: rest => some (withGreed 0 none rest)
  | '+' :: rest => some (withGreed 1 none rest)
  | '?' :: rest => some (withGreed 0 (some 1) rest)
  | '\x7b' :: rest => counts rest
  | c :: rest => some (.character c, rest)

/-- Cuts a written pattern into lexemes. Each takes at least one character, so the length of the
text bounds their number. -/
def all : Nat → List Char → Option (List Lexeme)
  | _, [] => some []
  | 0, _ :: _ => none
  | budget + 1, text@(_ :: _) => do
    let (lexeme, rest) ← next text
    let later ← all budget rest
    some (lexeme :: later)

end Lexeme

end Packrat
