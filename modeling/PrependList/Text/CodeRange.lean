/-!
# Ranges of code points

Classes of characters that have no rule of their own are tables: lists of ranges in ascending order,
none of them empty. The order is for readers; whether a table covers a character does not depend on
it.
-/

namespace PrependList

/-- The code points from `first` to `last`, both included. -/
structure CodeRange where
  first : Nat
  last : Nat
  deriving DecidableEq, Repr

namespace CodeRange

def contains (range : CodeRange) (c : Char) : Bool :=
  range.first ≤ c.toNat && c.toNat ≤ range.last

/-- Whether one of the ranges contains the character. -/
def covers (table : List CodeRange) (c : Char) : Bool := table.any (·.contains c)

end CodeRange

end PrependList
