/-!
# Sets of characters as ranges

A character property of the Unicode standard is written as a table of inclusive ranges of code points.
-/

namespace AccessLog

abbrev CodeRanges := List (Nat × Nat)

def CodeRanges.contains (table : CodeRanges) (c : Char) : Bool :=
  table.any fun r => r.1 ≤ c.toNat && c.toNat ≤ r.2

end AccessLog
