/-!
# Sets of characters

Sets of characters as runs of code points.
-/

namespace AttributeBrowser

/-- Runs of code points, each with its first and its last. -/
structure CharSet where
  runs : Array (Nat × Nat)

/-- Whether a character belongs to a set. -/
def CharSet.contains (set : CharSet) (c : Char) : Bool :=
  set.runs.any fun (first, last) => first ≤ c.toNat && c.toNat ≤ last

end AttributeBrowser
