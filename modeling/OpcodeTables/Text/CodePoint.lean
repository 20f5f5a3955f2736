/-!
# Code points

Characters by their numbers.  A class of characters that follows no rule is
listed as ranges of code points.
-/

namespace OpcodeTables.Text

/-- The character of a number, unless the number is past the last one or names
half of a surrogate pair. -/
def charOfCode? (code : Nat) : Option Char :=
  if code.isValidChar then some (Char.ofNat code) else none

/-- The code points from `first` to `last`, both included. -/
structure CodeRange where
  first : Nat
  last : Nat
  deriving DecidableEq, Repr

/-- Whether a character is of the range. -/
def CodeRange.covers (range : CodeRange) (c : Char) : Bool :=
  range.first ≤ c.toNat && c.toNat ≤ range.last

/-- Every character is the one of its number. -/
theorem charOfCode?_toNat (c : Char) : charOfCode? c.toNat = some c := by
  have valid : c.toNat.isValidChar := c.valid
  simp [charOfCode?, valid]

end OpcodeTables.Text
