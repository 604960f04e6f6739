/-!
# Settings

What can be chosen for one build or stream: the bounds of a match cache, and a limit on the number
of rule calls.
-/

namespace Packrat

/-- The bounds of a match cache. -/
structure CacheBounds where
  /-- How many positions are remembered. -/
  depth : Nat
  /-- How many rules are remembered at a position. -/
  breadth : Nat
deriving DecidableEq, Repr

/-- Settings for one build or stream. -/
structure Config where
  /-- The bounds of the match cache, if there is one. -/
  cache : Option CacheBounds
  /-- The greatest number of rule calls, if there is one. -/
  callLimit : Option Nat
deriving DecidableEq, Repr

namespace Config

/-- Neither cache nor limit. -/
def default : Config :=
  ⟨none, none⟩

/-- The settings with a match cache. -/
def withCache (config : Config) (depth breadth : Nat) : Config :=
  { config with cache := some ⟨depth, breadth⟩ }

/-- The settings with a limit on rule calls; zero takes the limit away. -/
def withCallLimit (config : Config) (limit : Nat) : Config :=
  { config with callLimit := if limit = 0 then none else some limit }

end Config

end Packrat
