import Packrat.Text.Structured

/-!
# Annotations

A rule carries annotations: keys with values, at most one value for a key. They are kept in the
order of their keys, the built-in ones first and custom labels in the order of their characters.
-/

namespace Packrat

/-- The key of an annotation. -/
inductive AnnotationKey where
  /-- The message of a failure. -/
  | error
  /-- The name that replaces that of the rule's token. -/
  | token
  /-- The rule recovers from failure. -/
  | pinned
  /-- The rule's node is dropped with its children. -/
  | void
  /-- The rule's node is replaced by its children. -/
  | transient
  /-- Any other label. -/
  | custom (label : String)
deriving DecidableEq, Repr

namespace AnnotationKey

/-- The place of a key among the built-in keys; custom labels come last. -/
def rank : AnnotationKey → Nat
  | error => 0
  | token => 1
  | pinned => 2
  | void => 3
  | transient => 4
  | custom _ => 5

/-- Whether a key comes before another. -/
def before : AnnotationKey → AnnotationKey → Bool
  | custom left, custom right => left < right
  | left, right => left.rank < right.rank

/-- The written form of a key. -/
def text : AnnotationKey → String
  | error => "@error"
  | token => "@token"
  | pinned => "@pin"
  | void => "@void"
  | transient => "@transient"
  | custom label => "@" ++ label

/-- The inspection form of a key. -/
def inspect : AnnotationKey → String
  | error => "Error"
  | token => "Token"
  | pinned => "Pinned"
  | void => "Void"
  | transient => "Transient"
  | custom label => Text.tuple "Custom" [Text.quoted label]

end AnnotationKey

/-- The value of an annotation. -/
inductive AnnotationValue where
  /-- Present, with nothing more to say. -/
  | set
  /-- A text. -/
  | text (value : String)
  /-- An integer. -/
  | int (value : Int)
  /-- A truth value. -/
  | bool (value : Bool)
deriving DecidableEq, Repr

namespace AnnotationValue

/-- The written form of an integer. -/
def digits : Int → String
  | .ofNat value => toString value
  | .negSucc value => "-" ++ toString (value + 1)

/-- The written form of a value, as it follows its key. -/
def shown : AnnotationValue → String
  | set => ""
  | text value => "(" ++ Text.quoted value ++ ")"
  | int value => "(" ++ digits value ++ ")"
  | bool value => "(" ++ Text.truth value ++ ")"

/-- The inspection form of a value. -/
def inspect : AnnotationValue → String
  | set => "Set"
  | text value => Text.tuple "String" [Text.quoted value]
  | int value => Text.tuple "Int" [digits value]
  | bool value => Text.tuple "Bool" [Text.truth value]

end AnnotationValue

/-- The annotations of a rule. -/
structure Annotations where
  /-- The keys with their values, in the order of the keys. -/
  entries : List (AnnotationKey × AnnotationValue)
deriving DecidableEq, Repr, Inhabited

namespace Annotations

/-- No annotations. -/
def empty : Annotations :=
  ⟨[]⟩

/-- Whether there are no annotations. -/
def isEmpty (annotations : Annotations) : Bool :=
  annotations.entries.isEmpty

/-- How many annotations there are. -/
def size (annotations : Annotations) : Nat :=
  annotations.entries.length

/-- The value of a key. -/
def get? (annotations : Annotations) (key : AnnotationKey) : Option AnnotationValue :=
  annotations.entries.lookup key

/-- Whether a key has a value. -/
def contains (annotations : Annotations) (key : AnnotationKey) : Bool :=
  (annotations.get? key).isSome

/-- Puts a value where its key belongs, in place of the value the key had. -/
def insertEntry (key : AnnotationKey) (value : AnnotationValue) :
    List (AnnotationKey × AnnotationValue) → List (AnnotationKey × AnnotationValue)
  | [] => [(key, value)]
  | (other, old) :: later =>
    if other = key then (key, value) :: later
    else if key.before other then (key, value) :: (other, old) :: later
    else (other, old) :: insertEntry key value later

/-- The annotations with a value set. -/
def insert (annotations : Annotations) (key : AnnotationKey) (value : AnnotationValue) :
    Annotations :=
  ⟨insertEntry key value annotations.entries⟩

/-- The annotations of a list of keys and values; of two values for a key the later one counts. -/
def ofList (entries : List (AnnotationKey × AnnotationValue)) : Annotations :=
  entries.foldl (fun annotations (key, value) => annotations.insert key value) empty

/-- The text that a key has for its value, if it is a text. -/
def textOf (annotations : Annotations) (key : AnnotationKey) : Option String :=
  match annotations.get? key with
  | some (.text value) => some value
  | _ => none

/-- Whether a key is present as a flag that is not switched off. -/
def flag (annotations : Annotations) (key : AnnotationKey) : Bool :=
  match annotations.get? key with
  | some .set => true
  | some (.bool value) => value
  | _ => false

/-- The message of a failure. -/
def error (annotations : Annotations) : Option String :=
  annotations.textOf .error

/-- The name that replaces that of the rule's token. -/
def token (annotations : Annotations) : Option String :=
  annotations.textOf .token

/-- Whether the rule recovers from failure. -/
def pinned (annotations : Annotations) : Bool :=
  annotations.flag .pinned

/-- Whether the rule's node is dropped with its children. -/
def void (annotations : Annotations) : Bool :=
  annotations.flag .void

/-- Whether the rule's node is replaced by its children. -/
def transient (annotations : Annotations) : Bool :=
  annotations.flag .transient

/-- The written form of each annotation. -/
def shownEntries (annotations : Annotations) : List String :=
  annotations.entries.map fun (key, value) => key.text ++ value.shown

/-- The written form of annotations. -/
def text (annotations : Annotations) : String :=
  " ".intercalate annotations.shownEntries

/-- The inspection form of annotations. -/
def inspect (annotations : Annotations) : String :=
  Text.tuple "Annotations"
    [Text.mapping (annotations.entries.map fun (key, value) => (key.inspect, value.inspect))]

end Annotations

end Packrat
