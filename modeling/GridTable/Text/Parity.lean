/-! Properties of characters as tables of changes.
A table lists the code points at which a property changes, in ascending order, so that the
property of a character depends on the parity of the changes up to it.
-/

namespace GridTable.Text

/-- How many changes lie at or below a character. -/
def changesUpTo (changes : Array Nat) (c : Char) : Nat :=
  changes.foldl (fun count change => if change ≤ c.toNat then count + 1 else count) 0

end GridTable.Text
