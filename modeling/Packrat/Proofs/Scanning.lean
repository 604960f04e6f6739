import Packrat.Proofs.Offsets
import Packrat.Terminal

/-!
# Where scans lead

A scanner is inside its source by its type, so a source and a position determine it. A scan that
finds something moves the cursor forward, or leaves it where it is: `Scanner.Reaches` says so of two
scanners, and every terminal keeps it.
-/

namespace Packrat

namespace Scanner

/-- Scanners of one source at one position are the same. -/
theorem eq_of_position {left right : Scanner} (source : left.source = right.source)
    (position : left.position = right.position) : left = right := by
  obtain ⟨source, position, inside⟩ := left
  obtain ⟨_, _, _⟩ := right
  simp_all

/-- One scanner is reached from another by going forward in the same source, if at all. -/
structure Reaches (before after : Scanner) : Prop where
  /-- The source is the same. -/
  source : after.source = before.source
  /-- The cursor did not go back. -/
  forward : before.position ≤ after.position

/-- Every scanner reaches itself. -/
theorem Reaches.refl (scanner : Scanner) : scanner.Reaches scanner :=
  ⟨rfl, Nat.le_refl _⟩

/-- Going forward twice goes forward. -/
theorem Reaches.trans {first second third : Scanner} (earlier : first.Reaches second)
    (later : second.Reaches third) : first.Reaches third :=
  ⟨later.source.trans earlier.source, Nat.le_trans earlier.forward later.forward⟩

/-- Going on in the source leaves less of it. -/
theorem Reaches.remaining_lt {before after : Scanner} (reached : before.Reaches after)
    (onward : after.position ≠ before.position) :
    after.source.length - after.position < before.source.length - before.position := by
  have forward := reached.forward
  have inside := after.inside
  rw [reached.source] at inside ⊢
  omega

/-- Moving to a position inside the source leads exactly there. -/
theorem position_moveTo {scanner : Scanner} {position : Nat}
    (inside : position ≤ scanner.source.length) : (scanner.moveTo position).position = position :=
  Nat.min_eq_left inside

/-- Moving to where another scanner of the same source stands leads to that scanner. -/
theorem moveTo_position {scanner other : Scanner} (source : scanner.source = other.source) :
    scanner.moveTo other.position = other :=
  eq_of_position source (position_moveTo (source ▸ other.inside))

/-- Taking characters leads forward. -/
theorem advance_reaches (scanner : Scanner) (count : Nat) :
    scanner.Reaches (scanner.advance count) :=
  ⟨rfl, Nat.le_min.mpr ⟨Nat.le_add_right _ _, scanner.inside⟩⟩

/-- Taking one character leads forward. -/
theorem consume_reaches {scanner next : Scanner} {c : Char}
    (found : scanner.consume = some (c, next)) : scanner.Reaches next := by
  obtain ⟨peeked, seen, same⟩ := Option.map_eq_some_iff.mp found
  obtain rfl : scanner.advance 1 = next := congrArg Prod.snd same
  exact advance_reaches scanner 1

/-- Taking a character that a test accepts leads forward. -/
theorem scanWhere_reaches {scanner next : Scanner} {accept : Char → Bool}
    (found : scanner.scanWhere accept = some next) : scanner.Reaches next := by
  unfold scanWhere at found
  split at found
  · split at found
    · obtain rfl := Option.some.inj found
      exact advance_reaches scanner 1
    · contradiction
  · contradiction

/-- Taking a text leads forward. -/
theorem scanLiteral_reaches {scanner next : Scanner} {text : String}
    (found : scanner.scanLiteral text = some next) : scanner.Reaches next := by
  unfold scanLiteral at found
  split at found
  · obtain rfl := Option.some.inj found
    exact advance_reaches scanner _
  · contradiction

/-- Taking a text up to the case of letters leads forward. -/
theorem scanInsensitive_reaches {scanner next : Scanner} {text : String}
    (found : scanner.scanInsensitive text = some next) : scanner.Reaches next := by
  unfold scanInsensitive at found
  split at found
  · obtain rfl := Option.some.inj found
    exact advance_reaches scanner _
  · contradiction

/-- Taking the match of a pattern leads forward. -/
theorem scanRegex_reaches {scanner next : Scanner} {regex : Regex}
    (found : scanner.scanRegex regex = some next) : scanner.Reaches next := by
  rw [scanRegex_eq] at found
  obtain ⟨count, matched, rfl⟩ := Option.map_eq_some_iff.mp found
  exact advance_reaches scanner count

end Scanner

/-- A terminal that matches leads forward in the same source. -/
theorem Terminal.scan_reaches {terminal : Terminal} {scanner next : Scanner}
    (found : terminal.scan scanner = some next) : scanner.Reaches next := by
  cases terminal with
  | literal text => exact Scanner.scanLiteral_reaches found
  | insensitive text => exact Scanner.scanInsensitive_reaches found
  | set members => exact Scanner.scanWhere_reaches found
  | range first last => exact Scanner.scanWhere_reaches found
  | regex written compiled => exact Scanner.scanRegex_reaches found
  | any => exact Scanner.scanWhere_reaches found
  | endOfInput =>
    simp only [scan] at found
    split at found
    · obtain rfl := Option.some.inj found
      exact .refl scanner
    · contradiction

end Packrat
